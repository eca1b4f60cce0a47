import Mathlib.Data.List.Basic
import SubjectMerge.Proofs.Preview.Parties
import SubjectMerge.Proofs.Preview.Percent

/-! What a job has said and will say. Reports on their way to the listener, what the listener holds, and what
it has passed on make one stream, in the order in which it will all be said. Moves of the job carry the stream
along; only three of them lengthen it, at its end: the task announces itself, a worker reports a count above
all earlier ones, or the task concludes. So its shape can be read off the moves that lengthen it. -/

namespace SubjectMerge

namespace Jobs

/-- What a listener will pass on of these reports, and how far it will have come then. -/
def heard : Progress → List Report → List JobStatus × Progress
  | progress, [] => ([], progress)
  | progress, report :: rest =>
    let (status, progress) := report.taken progress
    let (statuses, progress) := heard progress rest
    (status.toList ++ statuses, progress)

theorem heard_append (progress : Progress) (reports more : List Report) :
    heard progress (reports ++ more) =
      ((heard progress reports).1 ++ (heard (heard progress reports).2 more).1,
        (heard (heard progress reports).2 more).2) := by
  induction reports generalizing progress with
  | nil => rfl
  | cons report rest ih => simp [heard, ih]

def Listener.progress : Listener → Progress
  | .listening progress | .holding progress _ => progress
  | .gone => {}

def Listener.hand : Listener → Option JobStatus
  | .holding _ status => some status
  | .listening _ | .gone => none

/-- The counter of a job's rows, and the counts that workers took from it. -/
structure Counted (counter : UInt64) (workers : List Worker) : Prop where
  countable : Countable workers.length
  counter : counter.toNat = workers.countP Worker.isCounted
  counts : ∀ row done, .counted row done ∈ workers → done.toNat ≤ workers.length

namespace Counted

variable {counter : UInt64} {workers : List Worker} {worker : Nat}

theorem fresh {recipients : List String} (h : Countable recipients.length) :
    Counted 0 (recipients.map .idle) where
  countable := by simpa using h
  counter := by
    have hnone : ∀ w ∈ recipients.map Worker.idle, ¬ w.isCounted := by simp [Worker.isCounted]
    rw [List.countP_eq_zero.2 hnone]
    rfl
  counts row done hmem := by simp at hmem

/-- A worker that has counted stays counted, and the others stay uncounted. -/
theorem set (h : Counted counter workers) {before after : Worker} (found : workers[worker]? = some before)
    (same : after.isCounted = before.isCounted) (uncounted : ∀ row done, after ≠ .counted row done) :
    Counted counter (workers.set worker after) where
  countable := by simpa using h.countable
  counter := by
    obtain ⟨hlt, rfl⟩ := List.getElem?_eq_some_iff.1 found
    rw [h.counter, List.countP_set hlt, same]
    cases hcounted : workers[worker].isCounted with
    | false => simp
    | true =>
      have hpos : 0 < workers.countP Worker.isCounted :=
        List.countP_pos_iff.2 ⟨_, List.getElem_mem hlt, hcounted⟩
      simp only [if_true]
      omega
  counts row done hmem := by
    rw [List.length_set]
    rcases List.mem_or_eq_of_mem_set hmem with hmem | heq
    · exact h.counts row done hmem
    · exact absurd heq.symm (uncounted row done)

/-- There is room for one more in the counter as long as a worker has not counted. -/
theorem toNat_succ (h : Counted counter workers) {before : Worker} (found : workers[worker]? = some before)
    (uncounted : before.isCounted = false) :
    (counter + 1).toNat = counter.toNat + 1 ∧ counter.toNat + 1 ≤ workers.length := by
  obtain ⟨hlt, rfl⟩ := List.getElem?_eq_some_iff.1 found
  have hroom : workers.countP Worker.isCounted < workers.length := by
    refine Nat.lt_of_le_of_ne List.countP_le_length fun hall => ?_
    have := List.countP_eq_length.1 hall _ (List.getElem_mem hlt)
    rw [uncounted] at this
    cases this
  have hfits := h.countable
  unfold Countable UInt64.size at hfits
  rw [UInt64.toNat_add, h.counter]
  simp only [UInt64.reduceToNat]
  omega

theorem count (h : Counted counter workers) {row : Message}
    (found : workers[worker]? = some (.rendered row)) :
    Counted (counter + 1) (workers.set worker (.counted row (counter + 1))) := by
  obtain ⟨hsucc, hroom⟩ := h.toNat_succ found rfl
  obtain ⟨hlt, hrow⟩ := List.getElem?_eq_some_iff.1 found
  constructor
  · simpa using h.countable
  · rw [hsucc, List.countP_set hlt, hrow, h.counter]
    simp [Worker.isCounted]
  · intro other done hmem
    rw [List.length_set]
    rcases List.mem_or_eq_of_mem_set hmem with hmem | heq
    · exact h.counts other done hmem
    · cases heq
      omega

end Counted

namespace Task

/-- What the listener is still to pass on. -/
def coming (task : Task) : List JobStatus :=
  task.listener.hand.toList ++ (heard task.listener.progress task.reports).1

/-- How far the listener will have come when it has heard everything. -/
def tracker (task : Task) : Progress := (heard task.listener.progress task.reports).2

/-- The task's last say, once it is said. -/
def verdict (task : Task) : Option JobStatus :=
  match task.phase with
  | .concluded outcome => some outcome.status
  | _ => none

/-- A task and its listener keep step: a listener hears nothing before the task announces itself, and is gone
only when there is nothing left to hear; a task concludes after that. -/
structure Sound (task : Task) : Prop where
  opening : task.phase = .opening → task.reports = [] ∧ task.listener = .listening {}
  gone : task.listener = .gone → task.reports = [] ∧
    ∃ outcome, task.phase = .returned outcome ∨ task.phase = .concluded outcome
  concluded : ∀ outcome, task.phase = .concluded outcome → task.listener = .gone

/-- The percentages of a job: they rise to a hundred at most, and no count above those that the listener will
have heard stands for less. -/
structure Measured (task : Task) (percents : List UInt32) : Prop where
  rising : percents.Pairwise (· ≤ ·)
  bounded : ∀ p ∈ percents, p ≤ 100
  early : task.phase = .opening ∨ task.phase = .listing → (∀ p ∈ percents, p = 0) ∧ task.tracker = {}
  rendering : ∀ counter workers, task.phase = .rendering counter workers → Counted counter workers ∧
    task.tracker.highest.toNat ≤ workers.length ∧
    ∀ p ∈ percents, p ≤ percent task.tracker.highest (.ofNat workers.length)

/-- A job that has said so much has a stream of the right shape. -/
structure Kept (listable : Prop) (task : Task) (said : List JobStatus) (percents : List UInt32) : Prop where
  stream : said ++ task.coming = .pending :: percents.map .inProgress ++ task.verdict.toList
  sound : task.Sound
  measured : listable → task.Measured percents

variable {store : Store} {task task' : Task} {said : Option JobStatus} {phase : Phase}
  {reports : List Report}

/-- A task goes on only while reports may come, and by going on it does not conclude. -/
theorem Next.busy {preview : Preview} {before after : Phase} (next : Next store preview before reports after)
    (outcome : PreviewOutcome) :
    before ≠ .returned outcome ∧ before ≠ .concluded outcome ∧ after ≠ .concluded outcome ∧
      after ≠ .opening := by
  cases next <;> simp

theorem Sound.listens (h : task.Sound) (next : Next store task.preview task.phase reports phase) :
    task.listener ≠ .gone := by
  intro gone
  obtain ⟨-, outcome, hphase | hphase⟩ := h.gone gone
  · exact (next.busy outcome).1 hphase
  · exact (next.busy outcome).2.1 hphase

/-- A listener that is still there may hear and pass on whatever there is, once the task has announced itself. -/
theorem Sound.listening (h : task.Sound) (opened : task.phase ≠ .opening) (here : task.listener ≠ .gone)
    {listener : Listener} (still : listener ≠ .gone) (reports : List Report) :
    Sound { task with listener := listener, reports := reports } where
  opening opening := absurd opening opened
  gone gone := absurd gone still
  concluded outcome concluded := absurd (h.concluded outcome concluded) here

theorem Sound.deed (h : task.Sound) (deed : Deed store task said task') : task'.Sound := by
  cases deed with
  | stands => exact h
  | goesOn reports phase next =>
    exact ⟨fun opening => absurd opening (next.busy (.rows [])).2.2.2, fun gone => absurd gone (h.listens next),
      fun outcome concluded => absurd concluded (next.busy outcome).2.2.1⟩
  | hears progress progress' report rest status listener first taken =>
    have opened : task.phase ≠ .opening := fun opening => by simp [(h.opening opening).1] at first
    exact h.listening opened (by simp [listener]) (by simp) rest
  | ignores progress progress' report rest listener first taken =>
    have opened : task.phase ≠ .opening := fun opening => by simp [(h.opening opening).1] at first
    exact h.listening opened (by simp [listener]) (by simp) rest
  | passesOn progress status listener =>
    have opened : task.phase ≠ .opening := fun opening => by simp [(h.opening opening).2] at listener
    exact h.listening opened (by simp [listener]) (by simp) task.reports
  | hangsUp progress outcome listener heard phase =>
    exact ⟨by simp [phase], fun _ => ⟨heard, outcome, Or.inl phase⟩, by simp [phase]⟩
  | concludes outcome listener phase =>
    exact ⟨by simp, fun gone => ⟨(h.gone gone).1, outcome, Or.inr rfl⟩, fun _ _ => listener⟩

theorem coming_append (task : Task) (phase : Phase) (reports : List Report) :
    coming { task with phase := phase, reports := task.reports ++ reports } =
      task.coming ++ (heard task.tracker reports).1 := by
  simp [coming, tracker, heard_append]

theorem tracker_append (task : Task) (phase : Phase) (reports : List Report) :
    tracker { task with phase := phase, reports := task.reports ++ reports } =
      (heard task.tracker reports).2 := by
  simp [tracker, heard_append]

namespace Measured

variable {percents : List UInt32}

/-- After the last report the percentages stay as they are. -/
theorem closed (h : task.Measured percents) {outcome : PreviewOutcome}
    (phase : task'.phase = .returned outcome ∨ task'.phase = .concluded outcome) : task'.Measured percents where
  rising := h.rising
  bounded := h.bounded
  early early := by rcases phase with h | h <;> simp [h] at early
  rendering counter workers rendering := by rcases phase with h | h <;> simp [h] at rendering

/-- The first percentage is nought. -/
theorem announced (h : task.Measured percents) (before : task.phase = .opening) (after : task'.phase = .listing)
    (tracker : task'.tracker = task.tracker) : task'.Measured (percents ++ [0]) := by
  obtain ⟨hzero, hfresh⟩ := h.early (Or.inl before)
  have hall : ∀ p ∈ percents ++ [0], p = 0 := by
    intro p hp
    rcases List.mem_append.1 hp with hp | hp
    · exact hzero p hp
    · exact List.mem_singleton.1 hp
  refine ⟨?_, ?_, fun _ => ⟨hall, tracker.trans hfresh⟩, by simp [after]⟩
  · refine List.pairwise_append.2 ⟨h.rising, by simp, fun a ha b hb => ?_⟩
    rw [hzero a ha, List.mem_singleton.1 hb]
    exact UInt32.le_refl _
  · intro p hp
    rw [hall p hp]
    decide

theorem listed (h : task.Measured percents) {recipients : List String} (before : task.phase = .listing)
    (after : task'.phase = .rendering 0 (recipients.map .idle)) (countable : Countable recipients.length)
    (tracker : task'.tracker = task.tracker) : task'.Measured percents := by
  obtain ⟨hzero, hfresh⟩ := h.early (Or.inr before)
  refine ⟨h.rising, h.bounded, by simp [after], fun counter workers rendering => ?_⟩
  obtain ⟨rfl, rfl⟩ := Phase.rendering.inj (after.symm.trans rendering)
  rw [tracker, hfresh]
  refine ⟨.fresh countable, Nat.zero_le _, fun p hp => ?_⟩
  rw [hzero p hp, UInt32.le_iff_toNat_le]
  exact Nat.zero_le _

/-- Work that is not reported leaves the percentages as they are. -/
theorem worked (h : task.Measured percents) {counter counter' : UInt64} {workers workers' : List Worker}
    (before : task.phase = .rendering counter workers) (after : task'.phase = .rendering counter' workers')
    (counted : Counted counter workers → Counted counter' workers')
    (length : workers'.length = workers.length) (tracker : task'.tracker = task.tracker) :
    task'.Measured percents where
  rising := h.rising
  bounded := h.bounded
  early early := by simp [after] at early
  rendering _ _ rendering := by
    obtain ⟨rfl, rfl⟩ := Phase.rendering.inj (after.symm.trans rendering)
    obtain ⟨hcounted, hhighest, hpercents⟩ := h.rendering counter workers before
    rw [length, tracker]
    exact ⟨counted hcounted, hhighest, hpercents⟩

/-- A count above all that the listener will have heard is news, and stands for no less than they do. -/
theorem reported (h : task.Measured percents) {counter : UInt64} {workers workers' : List Worker}
    (before : task.phase = .rendering counter workers) (after : task'.phase = .rendering counter workers')
    (counted : Counted counter workers') (length : workers'.length = workers.length) {done : UInt64}
    (hdone : done.toNat ≤ workers.length)
    (tracker : task'.tracker = (task.tracker.observe done (.ofNat workers.length)).2) :
    task'.Measured (percents ++ (task.tracker.observe done (.ofNat workers.length)).1.toList) := by
  obtain ⟨hcounted, hhighest, hpercents⟩ := h.rendering counter workers before
  rw [Progress.observe] at tracker ⊢
  split at tracker
  · next hold =>
    rw [if_pos hold, Option.toList_none, List.append_nil]
    exact h.worked before after (fun _ => counted) length tracker
  · next hnew =>
    rw [if_neg hnew]
    have hrise : ∀ p ∈ percents, p ≤ percent done (.ofNat workers.length) := by
      intro p hp
      have hhigher : task.tracker.highest ≤ done := by
        rw [UInt64.le_iff_toNat_le] at hnew ⊢
        omega
      exact UInt32.le_trans (hpercents p hp) (percent_mono hcounted.countable hhigher hdone)
    constructor
    · simpa [List.pairwise_append] using ⟨h.rising, hrise⟩
    · intro p hp
      rcases List.mem_append.1 hp with hp | hp
      · exact h.bounded p hp
      · obtain rfl := List.mem_singleton.1 hp
        exact percent_le hcounted.countable hdone
    · intro early
      simp [after] at early
    · intro _ _ rendering
      obtain ⟨rfl, rfl⟩ := Phase.rendering.inj (after.symm.trans rendering)
      rw [length, tracker]
      refine ⟨counted, hdone, fun p hp => ?_⟩
      rcases List.mem_append.1 hp with hp | hp
      · exact hrise p hp
      · obtain rfl := List.mem_singleton.1 hp
        exact UInt32.le_refl _

/-- Moves of the listener leave the measure as it is. -/
theorem listener (h : task.Measured percents) (phase : task'.phase = task.phase)
    (tracker : task'.tracker = task.tracker) : task'.Measured percents where
  rising := h.rising
  bounded := h.bounded
  early early := by
    rw [phase] at early
    rw [tracker]
    exact h.early early
  rendering counter workers rendering := by
    rw [phase] at rendering
    rw [tracker]
    exact h.rendering counter workers rendering

end Measured

/-- By going on a task adds to the end of its stream at most one percentage, and keeps the measure. -/
theorem news_of_next (next : Next store task.preview task.phase reports phase) :
    ∃ news : List UInt32, (heard task.tracker reports).1 = news.map .inProgress ∧
      ((∀ ids, store.ids = .ok ids → Countable ids.length) → ∀ percents, task.Measured percents →
        Measured { task with phase := phase, reports := task.reports ++ reports } (percents ++ news)) := by
  generalize before : task.phase = phase₀ at next
  have htracker := tracker_append task phase reports
  generalize hnext : { task with phase := phase, reports := task.reports ++ reports } = next' at htracker ⊢
  have after : next'.phase = phase := by rw [← hnext]
  -- all but two of the moves report nothing
  have quiet (silent : reports = []) (kept : (∀ ids, store.ids = .ok ids → Countable ids.length) →
      ∀ percents, task.Measured percents → next'.Measured percents) :
      ∃ news : List UInt32, (heard task.tracker reports).1 = news.map .inProgress ∧
        ((∀ ids, store.ids = .ok ids → Countable ids.length) → ∀ percents, task.Measured percents →
          next'.Measured (percents ++ news)) :=
    ⟨[], by simp [silent, heard], by simpa using kept⟩
  cases next with
  | announces => exact ⟨[0], rfl, fun _ percents h => h.announced before after htracker⟩
  | lists recipients listed =>
    exact quiet rfl fun listable _ h => h.listed before after (listable recipients listed) htracker
  | unlisted e failed => exact quiet rfl fun _ _ h => h.closed (Or.inl after)
  | renders counter workers worker recipient bound found resolved =>
    exact quiet rfl fun _ _ h =>
      h.worked before after (fun counted => counted.set found rfl (by simp)) (by simp) htracker
  | crashes counter workers worker recipient words found resolved =>
    exact quiet rfl fun _ _ h =>
      h.worked before after (fun counted => counted.set found rfl (by simp)) (by simp) htracker
  | counts counter workers worker row found =>
    exact quiet rfl fun _ _ h =>
      h.worked before after (fun counted => counted.count found) (by simp) htracker
  | reports counter workers worker row done found =>
    refine ⟨(task.tracker.observe done (.ofNat workers.length)).1.toList, ?_, fun _ percents h => ?_⟩
    · simp only [heard, Report.taken]
      cases (task.tracker.observe done (.ofNat workers.length)).1 <;> rfl
    · obtain ⟨hcounted, -⟩ := h.rendering counter workers before
      have hdone := hcounted.counts row done (List.mem_of_getElem? found)
      exact h.reported before after (hcounted.set found rfl (by simp)) (by simp) hdone htracker
  | finishes counter workers rows all => exact quiet rfl fun _ _ h => h.closed (Or.inl after)
  | unwinds counter workers worker words found halted =>
    exact quiet rfl fun _ _ h => h.closed (Or.inl after)

namespace Kept

variable {listable listable' : Prop} {spoken : List JobStatus} {percents : List UInt32}

theorem initial (listable : Prop) (preview : Preview) : Kept listable { preview } [.pending] [] where
  stream := rfl
  sound := ⟨fun _ => ⟨rfl, rfl⟩, by simp, by simp⟩
  measured _ := ⟨List.Pairwise.nil, by simp, fun _ => ⟨by simp, rfl⟩, by simp⟩

/-- A move that lengthens no stream. -/
theorem carried (h : Kept listable task spoken percents) (weaker : listable' → listable) (sound : task'.Sound)
    (coming : said.toList ++ task'.coming = task.coming) (verdict : task'.verdict = task.verdict)
    (measured : task.Measured percents → task'.Measured percents) :
    Kept listable' task' (spoken ++ said.toList) percents where
  stream := by rw [List.append_assoc, coming, verdict, h.stream]
  sound := sound
  measured hl := measured (h.measured (weaker hl))

/-- Whatever a job does next, its stream keeps its shape. -/
theorem deed (h : Kept listable task spoken percents) (weaker : listable' → listable)
    (countable : listable' → ∀ ids, store.ids = .ok ids → Countable ids.length)
    (deed : Deed store task said task') :
    ∃ percents', Kept listable' task' (spoken ++ said.toList) percents' := by
  have sound := h.sound.deed deed
  cases deed with
  | stands => exact ⟨percents, h.carried weaker sound rfl rfl id⟩
  | goesOn reports phase next =>
    obtain ⟨news, hnews, hmeasured⟩ := news_of_next next
    refine ⟨percents ++ news, ?_, sound, fun hl => hmeasured (countable hl) percents (h.measured (weaker hl))⟩
    -- a task that goes on has not concluded, so what is new stands at the end
    have unsaid : task.verdict = none := by
      unfold verdict
      split
      · next outcome concluded => exact absurd concluded (next.busy outcome).2.1
      · rfl
    have unsaid' : verdict { task with phase := phase, reports := task.reports ++ reports } = none := by
      unfold verdict
      split
      · next outcome concluded => exact absurd concluded (next.busy outcome).2.2.1
      · rfl
    have stream := h.stream
    rw [unsaid] at stream
    rw [unsaid', coming_append, hnews, Option.toList_none, List.append_nil, ← List.append_assoc, stream]
    simp
  | hears progress progress' report rest status listener first taken =>
    refine ⟨percents, h.carried weaker sound ?_ rfl fun hm => hm.listener rfl ?_⟩
    · simp [coming, listener, first, heard, taken, Listener.hand, Listener.progress]
    · simp [tracker, listener, first, heard, taken, Listener.progress]
  | ignores progress progress' report rest listener first taken =>
    refine ⟨percents, h.carried weaker sound ?_ rfl fun hm => hm.listener rfl ?_⟩
    · simp [coming, listener, first, heard, taken, Listener.hand, Listener.progress]
    · simp [tracker, listener, first, heard, taken, Listener.progress]
  | passesOn progress status listener =>
    refine ⟨percents, h.carried weaker sound ?_ rfl fun hm => hm.listener rfl ?_⟩
    · simp [coming, listener, Listener.hand, Listener.progress]
    · simp [tracker, listener, Listener.progress]
  | hangsUp progress outcome listener heard phase =>
    refine ⟨percents, h.carried weaker sound ?_ rfl fun hm => hm.closed (Or.inl phase)⟩
    simp [coming, listener, heard, Listener.hand, Listener.progress, Jobs.heard]
  | concludes outcome listener phase =>
    refine ⟨percents, ?_, sound, fun hl => (h.measured (weaker hl)).closed (Or.inr rfl)⟩
    have silent : task.coming = [] := by
      simp [coming, listener, (h.sound.gone listener).1, Listener.hand, Listener.progress, Jobs.heard]
    have stream := h.stream
    have unsaid : task.verdict = none := by simp [verdict, phase]
    rw [silent, unsaid, List.append_nil, Option.toList_none, List.append_nil] at stream
    have silent' : coming { task with phase := .concluded outcome } = [] := silent
    rw [silent', stream]
    simp [verdict]

end Kept

end Task

end Jobs

end SubjectMerge
