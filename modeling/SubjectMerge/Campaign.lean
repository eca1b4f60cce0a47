import SubjectMerge.Policy
import SubjectMerge.Store

/-! One running campaign: the subject captured at its start, the token table made of it then, and the
tables bound for recipients whose messages are still to be finalized. The campaign's own table is
never bound. -/

namespace SubjectMerge

/-- The part of an outgoing message that may be changed. -/
structure Message where
  recipientId : String
  subject : String
  deriving DecidableEq, Repr

structure Summary where
  campaignId : String
  subject : String
  table : Table
  deriving DecidableEq, Repr

structure Campaign where
  id : String
  subject : String
  table : Table
  /-- Bound tables by recipient. -/
  parked : Keyed Table

namespace Campaign

/-- The names a campaign starts with. Under `failOpen` an unreadable directory counts as empty. -/
def directory (policy : Policy) (store : Store) : Except StoreError (List String) :=
  match store.names, policy with
  | .ok names, _ => .ok names
  | .error _, .failOpen => .ok []
  | .error e, .surface => .error e

def start (policy : Policy) (store : Store) (id subject : String) : Except StoreError Campaign :=
  (directory policy store).map fun names =>
    { id, subject, table := .ofSubject names subject, parked := .empty }

/-- Keeps a bound table for a recipient, in place of any kept before. -/
def park (campaign : Campaign) (recipient : String) (bound : Table) : Campaign :=
  { campaign with parked := campaign.parked.insert recipient bound }

/-- The table a recipient's message is filled in from: the parked one, or else the campaign's own. -/
def tableFor (campaign : Campaign) (recipient : String) : Table :=
  (campaign.parked.get? recipient).getD campaign.table

/-- Fills in a message and uses up its recipient's parked table. A campaign without tokens leaves
both alone. -/
def finalize (campaign : Campaign) (message : Message) : Message × Campaign :=
  if campaign.table.isEmpty then (message, campaign)
  else
    ({ message with subject := (campaign.tableFor message.recipientId).fill message.subject },
      { campaign with parked := campaign.parked.erase message.recipientId })

def summary (campaign : Campaign) : Summary :=
  { campaignId := campaign.id, subject := campaign.subject, table := campaign.table }

end Campaign

end SubjectMerge
