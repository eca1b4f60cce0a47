import SubjectMerge.Config.Load
import SubjectMerge.Proofs.Config.Precedence
import SubjectMerge.Proofs.Preview.Alone
import SubjectMerge.Proofs.Preview.Course
import SubjectMerge.Proofs.Preview.Highs
import SubjectMerge.Proofs.Preview.Parties
import SubjectMerge.Proofs.Preview.Percent
import SubjectMerge.Proofs.Preview.Rows
import SubjectMerge.Proofs.Preview.Send
import SubjectMerge.Proofs.Preview.Stream
import SubjectMerge.Proofs.Registry.Captured
import SubjectMerge.Proofs.Registry.History
import SubjectMerge.Proofs.Registry.Isolation
import SubjectMerge.Proofs.Registry.Locality
import SubjectMerge.Proofs.Registry.Ownership
import SubjectMerge.Proofs.Registry.Refinalized
import SubjectMerge.Proofs.Registry.Reordering
import SubjectMerge.Proofs.Registry.Valueless
import SubjectMerge.Proofs.Service.Failure
import SubjectMerge.Proofs.Service.Hooks
import SubjectMerge.Proofs.Service.Naming
import SubjectMerge.Proofs.Store.Cells
import SubjectMerge.Proofs.Store.Conforming
import SubjectMerge.Proofs.Store.Contents
import SubjectMerge.Proofs.Store.Declared
import SubjectMerge.Proofs.Store.Send
import SubjectMerge.Proofs.Store.Start
import SubjectMerge.Proofs.Subject.Directory
import SubjectMerge.Proofs.Subject.Listed
import SubjectMerge.Proofs.Subject.Missing
import SubjectMerge.Proofs.Subject.Reach
import SubjectMerge.Proofs.Subject.Replacement
import SubjectMerge.Proofs.Subject.Rereads
import SubjectMerge.Proofs.Subject.Seam
import SubjectMerge.Proofs.Table.Changes
import SubjectMerge.Proofs.Wire
import SubjectMerge.Service
import SubjectMerge.Store.Database.Edit
import SubjectMerge.Store.Scripted
