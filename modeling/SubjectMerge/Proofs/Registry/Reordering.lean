import Mathlib.Data.List.Nodup
import SubjectMerge.Proofs.Registry.Locality

/-! The order of steps that do not meet makes no difference. Two schedules of the same steps may interleave
campaigns, and the recipients of one campaign, as they like; if each campaign's starts and ends keep their
places among its other steps, and the steps for one recipient of a campaign keep theirs among themselves, then
every step is answered alike and the same registry is reached. -/

namespace SubjectMerge

/-- The steps are about one campaign, and one of them starts or ends it or both are about one recipient. -/
def Step.Meets (a b : Step) : Prop :=
  a.id = b.id ∧ (a.replaces ∨ b.replaces ∨ a.recipient? = b.recipient?)

/-- Two schedules of the same numbered steps. Steps that meet come in the same order in both. -/
structure Reordered (left right : List (Nat × Step)) : Prop where
  numbered : (left.map Prod.fst).Nodup
  same : left.Perm right
  kept : left.Pairwise fun a b => a.2.Meets b.2 → [a, b].Sublist right

instance : DecidableRel Step.Meets := fun _ _ => inferInstanceAs (Decidable (_ ∧ _))

instance (left right : List (Nat × Step)) : Decidable (Reordered left right) :=
  decidable_of_iff ((left.map Prod.fst).Nodup ∧ left.Perm right ∧
      left.Pairwise fun a b => a.2.Meets b.2 → [a, b].Sublist right)
    ⟨fun ⟨numbered, same, kept⟩ => ⟨numbered, same, kept⟩, fun ⟨numbered, same, kept⟩ => ⟨numbered, same, kept⟩⟩

/-- The moves of a schedule on a store whose answers never change. -/
def movesOn (store : Store) (steps : List (Nat × Step)) : List Move := steps.map fun step => ⟨store, step.2⟩

/-- What each step of a schedule is answered, if anything. -/
def System.replies (policy : Policy) (store : Store) :
    System → List (Nat × Step) → List ((Nat × Step) × Option Answer)
  | _, [] => []
  | system, step :: rest =>
    let (answer, next) := system.step policy ⟨store, step.2⟩
    (step, answer) :: next.replies policy store rest

/-- The registries run the same campaigns, with the same subjects and tables and the same tables parked. -/
def Registry.Same (left right : Registry) : Prop :=
  ∀ id, Option.Rel (fun c d => c.SameCore d ∧
    ∀ recipient, c.parked.get? recipient = d.parked.get? recipient) (left.get? id) (right.get? id)

theorem eq_of_sublist_both {α : Type} {l : List α} (distinct : l.Nodup) {a b : α} (hab : [a, b].Sublist l)
    (hba : [b, a].Sublist l) : a = b := by
  induction l with
  | nil => cases hab
  | cons x l ih =>
    obtain ⟨hx, hl⟩ := List.nodup_cons.1 distinct
    cases hab with
    | cons _ hab =>
      cases hba with
      | cons _ hba => exact ih hl hab hba
      | cons_cons _ hba => exact absurd (hab.subset (by simp)) hx
    | cons_cons _ hab =>
      cases hba with
      | cons _ hba => exact absurd (hba.subset (by simp)) hx
      | cons_cons _ hba => rfl

theorem Step.meets_of_touches {id : String} {who : Option String} {a b : Step} (ha : a.touches id who)
    (hb : b.touches id who) : a.Meets b := by
  obtain ⟨haid, hawho⟩ := touches_iff.1 ha
  obtain ⟨hbid, hbwho⟩ := touches_iff.1 hb
  refine ⟨haid.trans hbid.symm, ?_⟩
  rcases hawho with ha | ha
  · exact Or.inl ha
  · rcases hbwho with hb | hb
    · exact Or.inr (Or.inl hb)
    · exact Or.inr (Or.inr (ha.trans hb.symm))

namespace Reordered

variable {left right : List (Nat × Step)}

/-- To one recipient of one campaign both schedules are the same. -/
theorem filter_eq (h : Reordered left right) (id : String) (who : Option String) :
    left.filter (fun step => step.2.touches id who) = right.filter (fun step => step.2.touches id who) := by
  have distinct : right.Nodup := h.same.nodup_iff.1 (List.Nodup.of_map _ h.numbered)
  have hleft : (left.filter fun step => step.2.touches id who).Pairwise fun a b => [a, b].Sublist right := by
    rw [List.pairwise_filter]
    exact h.kept.imp fun {a b} kept ha hb => kept (Step.meets_of_touches ha hb)
  have hright : (right.filter fun step => step.2.touches id who).Pairwise fun a b => [a, b].Sublist right :=
    (List.pairwise_iff_forall_sublist.2 fun h => h).filter _
  exact List.Perm.eq_of_pairwise (fun a b _ _ => eq_of_sublist_both distinct) hleft hright (h.same.filter _)

end Reordered

namespace System

variable (policy : Policy) (store : Store)

theorem map_fst_replies (system : System) (steps : List (Nat × Step)) :
    (system.replies policy store steps).map Prod.fst = steps := by
  induction steps generalizing system with
  | nil => rfl
  | cons step rest ih => simp [replies, ih]

/-- What one recipient of a campaign sees of a schedule is the schedule of the steps that touch it. -/
theorem AgreeAt.run {id : String} {who : Option String} {left right : System}
    (h : AgreeAt id who left right) (steps : List (Nat × Step)) :
    (left.replies policy store steps).filter (fun reply => reply.1.2.touches id who) =
        right.replies policy store (steps.filter fun step => step.2.touches id who) ∧
      AgreeAt id who (left.run policy (movesOn store steps))
        (right.run policy (movesOn store (steps.filter fun step => step.2.touches id who))) := by
  induction steps generalizing left right with
  | nil => exact ⟨rfl, h⟩
  | cons step rest ih =>
    cases touches : step.2.touches id who with
    | true =>
      obtain ⟨hanswer, hafter⟩ := h.step policy store touches
      obtain ⟨hreplies, hrun⟩ := ih hafter
      rw [List.filter_cons_of_pos (by simpa using touches)]
      refine ⟨?_, hrun⟩
      rw [replies, replies, List.filter_cons_of_pos (by simpa using touches), hreplies, hanswer]
    | false =>
      have aside : ¬ step.2.touches id who := by simp [touches]
      have hafter := (agreeAt_step_aside policy left ⟨store, step.2⟩ aside).trans h
      obtain ⟨hreplies, hrun⟩ := ih hafter
      rw [List.filter_cons_of_neg (by simpa using touches)]
      refine ⟨?_, hrun⟩
      rw [replies, List.filter_cons_of_neg (by simpa using touches), hreplies]

variable {policy store}

/-- Systems that are the same to every recipient of every campaign run the same campaigns. -/
theorem same_of_agreeAt {left right : System} (h : ∀ id who, AgreeAt id who left right) :
    left.registry.Same right.registry := by
  intro id
  rcases (h id none).cases with ⟨hl, hr⟩ | ⟨c, d, hl, hr, hseen⟩
  · rw [hl, hr]
    exact .none
  · have hsummary : c.summary = d.summary := congrArg Prod.fst hseen
    simp only [Campaign.summary, Summary.mk.injEq] at hsummary
    rw [hl, hr]
    refine .some ⟨⟨hsummary.1.symm, hsummary.2.1.symm, hsummary.2.2.symm⟩, fun recipient => ?_⟩
    have hrecipient := (h id (some recipient)).campaign
    rw [hl, hr] at hrecipient
    exact congrArg Prod.snd (Option.some.inj hrecipient)

end System

/-- Schedules that keep the order of the steps that meet give every step the same answer, and lead to the
same registry and the same inquiries under way. -/
theorem replies_perm_of_reordered (policy : Policy) (store : Store) (system : System)
    {left right : List (Nat × Step)} (h : Reordered left right) :
    (system.replies policy store left).Perm (system.replies policy store right) ∧
      (system.run policy (movesOn store left)).registry.Same
        (system.run policy (movesOn store right)).registry ∧
      (system.run policy (movesOn store left)).underway =
        (system.run policy (movesOn store right)).underway := by
  have distinct : left.Nodup := List.Nodup.of_map _ h.numbered
  have views (id : String) (who : Option String) :
      (system.replies policy store left).filter (fun reply => reply.1.2.touches id who) =
          (system.replies policy store right).filter (fun reply => reply.1.2.touches id who) ∧
        System.AgreeAt id who (system.run policy (movesOn store left))
          (system.run policy (movesOn store right)) := by
    have start : System.AgreeAt id who system system := .refl system
    obtain ⟨hleft, hleftRun⟩ := start.run policy store left
    obtain ⟨hright, hrightRun⟩ := start.run policy store right
    rw [h.filter_eq id who] at hleft hleftRun
    exact ⟨hleft.trans hright.symm, hleftRun.trans hrightRun.symm⟩
  refine ⟨?_, System.same_of_agreeAt fun id who => (views id who).2, ?_⟩
  · have nodup {steps : List (Nat × Step)} (hsteps : steps.Nodup) :
        (system.replies policy store steps).Nodup := by
      refine List.Nodup.of_map Prod.fst ?_
      rwa [System.map_fst_replies]
    refine (List.perm_ext_iff_of_nodup (nodup distinct) (nodup (h.same.nodup_iff.1 distinct))).2 ?_
    intro reply
    -- every step touches the recipient it is about
    have own : reply.1.2.touches reply.1.2.id reply.1.2.recipient? := by simp [Step.touches]
    have hfilter := congrArg (reply ∈ ·) (views reply.1.2.id reply.1.2.recipient?).1
    simpa [List.mem_filter, own] using hfilter
  · funext inquiry
    exact (views inquiry.id (some inquiry.recipient)).2.underway inquiry rfl rfl

/-- Two recipients of one campaign and a second campaign, one after the other and all at once. -/
def orderly : List (Nat × Step) :=
  let ann : Inquiry := ⟨0, "c1", "ann"⟩
  let bob : Inquiry := ⟨0, "c1", "bob"⟩
  [(0, .start "c1" "Hi [NAME?you]"), (1, .snapshot ann), (2, .lookUp ann), (3, .park ann),
    (4, .finalize "c1" ⟨"ann", "Hi [NAME?you]"⟩), (5, .snapshot bob), (6, .lookUp bob), (7, .park bob),
    (8, .start "c2" "[NAME] now"), (9, .finish "c2")]

def hasty : List (Nat × Step) :=
  [8, 0, 5, 1, 6, 2, 9, 3, 7, 4].filterMap fun n => orderly.find? fun step => step.1 == n

theorem replies_perm_hasty :
    let store : Store := ⟨.ok ["Name"], .ok ["ann", "bob"], fun recipient =>
      if recipient = "ann" then .found (.ofList [("Name", some "Ann")]) else .failed (.unavailable "offline")⟩
    let run := fun steps => System.initial.run .failOpen (movesOn store steps)
    orderly ≠ hasty ∧ Reordered orderly hasty ∧
      (System.initial.replies .failOpen store orderly).Perm
        (System.initial.replies .failOpen store hasty) ∧
      (run orderly).registry.Same (run hasty).registry ∧ (run orderly).underway = (run hasty).underway := by
  have reordered : Reordered orderly hasty := by decide
  exact ⟨by decide, reordered, replies_perm_of_reordered .failOpen _ _ reordered⟩

end SubjectMerge
