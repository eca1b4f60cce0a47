import Mathlib.Tactic.Common
import SubjectMerge.Proofs.Config.Variables

/-! What a document gives of the settings. A document is read as a whole, so that one setting of the wrong kind
spoils all of them; otherwise each comes from the one node that has its key, and a group that is not there gives
none of its own. -/

namespace SubjectMerge

namespace Toml.Node

/-- The node has these fields, by name, or by place in an array. -/
inductive IsGroup (names : List String) : Node → List (String × Node) → Prop where
  | table (origin : Origin) (fields : List (String × Node)) : IsGroup names (.table origin fields) fields
  | array (items : List Node) : IsGroup names (.array items) (names.zip items)
  | tables (elements : List Node) : IsGroup names (.tables elements) (names.zip elements)
  | moment : IsGroup names .moment []

inductive IsText : Node → String → Prop where
  | string (s : String) : IsText (.string s) s

/-- The node is an integer of sixteen bits. -/
inductive IsPort : Node → UInt16 → Prop where
  | integer (n : UInt16) : IsPort (.integer n.toNat) n

/-- The policy in a document, where it has one name only, which is not read as leniently as a variable. -/
def policyName : Policy → String
  | .failOpen => "fail_open"
  | .surface => "surface"

inductive IsPolicy : Node → Policy → Prop where
  | name (policy : Policy) : IsPolicy (.string (policyName policy)) policy
  | key (policy : Policy) (origin : Origin) {content : Node} (hollow : content.isHollow = true) :
      IsPolicy (.table origin [(policyName policy, content)]) policy

end Toml.Node

open Toml (Node)

/-- The key is not there and nothing is given, or what its node says. -/
inductive Gives {α : Type} (reads : Node → α → Prop) (key : String) (entries : List (String × Node)) :
    Option α → Prop where
  | silent : entries.lookup key = none → Gives reads key entries none
  | given {node : Node} {a : α} : entries.lookup key = some node → reads node a →
      Gives reads key entries (some a)

/-- The settings are those of a document with these entries. -/
structure Settings.GivenBy (settings : Settings) (entries : List (String × Node)) : Prop where
  server : ∃ server, Gives (Node.IsGroup serverFields) "server" entries server ∧
    Gives Node.IsText "host" (server.getD []) settings.host ∧
    Gives Node.IsPort "port" (server.getD []) settings.tcpPort
  store : ∃ store, Gives (Node.IsGroup storeFields) "store" entries store ∧
    Gives Node.IsText "database_path" (store.getD []) settings.databasePath
  onDirectoryError : Gives Node.IsPolicy "on_directory_error" entries settings.onDirectoryError

namespace Toml.Node

theorem fields?_eq_some_iff (names : List String) (node : Node) (fields : List (String × Node)) :
    node.fields? names = some fields ↔ node.IsGroup names fields := by
  constructor
  · intro h
    cases node <;> cases h <;> constructor
  · rintro ⟨⟩ <;> rfl

theorem text?_eq_some_iff (node : Node) (s : String) : node.text? = some s ↔ node.IsText s := by
  constructor
  · intro h
    cases node <;> cases h
    constructor
  · rintro ⟨⟩
    rfl

theorem tcpPort?_eq_some_iff (node : Node) (n : UInt16) : node.tcpPort? = some n ↔ node.IsPort n := by
  constructor
  · intro h
    cases node with
    | integer m =>
      rw [tcpPort?, ite_and] at h
      split_ifs at h with hpos hlt
      have hm : m = n.toNat := by
        rw [← sixteenBits_eq_some_iff.1 ((if_pos hlt).trans h), Int.toNat_of_nonneg hpos]
      exact hm ▸ .integer n
    | _ => cases h
  · rintro ⟨⟩
    rw [tcpPort?, ite_and, if_pos (Int.natCast_nonneg _)]
    exact sixteenBits_eq_some_iff.2 (Int.toNat_natCast _)

theorem ofName?_eq_some_iff {name : String} {policy : Policy} :
    Policy.ofName? name = some policy ↔ name = policyName policy := by
  unfold Policy.ofName?
  split <;> cases policy <;> simp_all [policyName]

theorem policy?_eq_some_iff (node : Node) (policy : Policy) :
    node.policy? = some policy ↔ node.IsPolicy policy := by
  constructor
  · intro h
    unfold policy? at h
    split at h
    · rw [ofName?_eq_some_iff.1 h]
      exact .name policy
    · split_ifs at h with hollow
      rw [ofName?_eq_some_iff.1 h]
      exact .key policy _ hollow
    · cases h
  · rintro (⟨⟩ | ⟨_, _, hollow⟩)
    · exact ofName?_eq_some_iff.2 rfl
    · rw [policy?, if_pos hollow]
      exact ofName?_eq_some_iff.2 rfl

end Toml.Node

theorem readSetting?_eq_some_iff {α : Type} {read : Node → Option α} {reads : Node → α → Prop}
    (h : ∀ node a, read node = some a ↔ reads node a) {key : String} {entries : List (String × Node)}
    {given : Option α} : readSetting? read key entries = some given ↔ Gives reads key entries given := by
  unfold readSetting?
  constructor
  · intro hread
    split at hread
    · next hkey =>
      cases hread
      exact .silent hkey
    · next node hkey =>
      obtain ⟨a, ha, rfl⟩ := Option.map_eq_some_iff.1 hread
      exact .given hkey ((h node a).1 ha)
  · rintro (hkey | ⟨hkey, ha⟩)
    · simp [hkey]
    · simp [hkey, (h _ _).2 ha]

theorem Settings.ofEntries?_eq_some_iff {entries : List (String × Node)} {settings : Settings} :
    Settings.ofEntries? entries = some settings ↔ settings.GivenBy entries := by
  simp only [ofEntries?, bind, Option.bind_eq_some_iff, pure, Option.some.injEq,
    readSetting?_eq_some_iff (Node.fields?_eq_some_iff serverFields),
    readSetting?_eq_some_iff (Node.fields?_eq_some_iff storeFields),
    readSetting?_eq_some_iff Node.text?_eq_some_iff, readSetting?_eq_some_iff Node.tcpPort?_eq_some_iff,
    readSetting?_eq_some_iff Node.policy?_eq_some_iff]
  constructor
  · rintro ⟨server, hserver, store, hstore, host, hhost, tcpPort, hport, path, hpath, policy, hpolicy, rfl⟩
    exact ⟨⟨server, hserver, hhost, hport⟩, ⟨store, hstore, hpath⟩, hpolicy⟩
  · rintro ⟨⟨server, hserver, hhost, hport⟩, ⟨store, hstore, hpath⟩, hpolicy⟩
    exact ⟨server, hserver, store, hstore, _, hhost, _, hport, _, hpath, _, hpolicy, rfl⟩

end SubjectMerge
