import Entitlement.Policy.Codec
import Entitlement.Proofs.Json.Written

/-!
# What a stored policy reads back as

Subjects and actions are stored by their names and conditions by their written forms, and
nothing else of a policy is stored in a form that stands for several values.  So a stored
policy reads back as `Policy.reread`: every subject and every action is the one of its
name, and every condition is what its written form says.

A written form says the condition it comes from, with one exception: a literal text that
is spelled like a placeholder reads back as the placeholder (`Condition.reread_eq_self_iff`).

A policy is stored as a value or as the text of one, and reads back alike.

* From a value it is read by the decoders, which follow the constructors: conditions, rules,
  policies (`Condition.reads_toJson`, `Rule.reads_toJson`, `Policy.reads_toJson`).  The only
  members that may be absent are the conditions and the fields of a rule, and what stands for
  them then is what was left out.
* From a text it is read after the text was parsed.  The values are those that parse back, since
  a policy without numbers in its conditions has none anywhere (`Policy.numberFree_toJson`).
-/

namespace Entitlement

open Decode

/-! ## Conditions -/

namespace Condition

variable {condition : Condition}

/-- The condition that a written form says. -/
def reread (condition : Condition) : Condition := ofJson condition.toJson

theorem reread_text_token (which : Placeholder) :
    reread (.text which.token) = .placeholder which := by
  simp only [reread, text, toJson, ofJson, Placeholder.ofToken?_token]

/-- A condition reads back unless it is a text that is spelled like a placeholder. -/
theorem reread_eq_self_iff :
    condition.reread = condition ↔ ∀ which : Placeholder, condition ≠ .text which.token := by
  constructor
  · rintro hself which rfl
    rw [reread_text_token] at hself
    contradiction
  · intro hspelled
    cases condition with
    | placeholder which => simp only [reread, toJson, ofJson, Placeholder.ofToken?_token]
    | literal value =>
        cases value with
        | str text =>
            cases hfound : Placeholder.ofToken? text with
            | none => simp only [reread, toJson, ofJson, hfound]
            | some which =>
                have htoken : which.token = text := by
                  simpa using List.find?_some hfound
                exact absurd (htoken ▸ rfl) (hspelled which)
        | null | bool | num | arr | obj => rfl

theorem reads_toJson (hordered : condition.toJson.Ordered) :
    Condition.decoder.Reads condition.toJson condition.reread :=
  reads_mapped ofJson (reads_anything hordered)

end Condition

/-! ## Rules -/

namespace Rule

/-- The rule that a stored rule reads back as. -/
def reread (rule : Rule) : Rule :=
  { rule with
    actions := rule.actions.map fun action => .ofName action.name
    subject := .ofName rule.subject.name
    conditions := rule.conditions.map Condition.reread }

/-- The values in the conditions of a rule are ordered, as all values that are read from a
text. -/
def Ordered (rule : Rule) : Prop := ∀ entry ∈ rule.conditions.entries, entry.2.toJson.Ordered

variable {rule : Rule}

theorem reads_conditions {members : List (String × Json)} (hordered : rule.Ordered)
    (hkeys : (members.map (·.1)).Nodup)
    (hlookup : members.lookup "conditions" =
      (conditionsMember rule.conditions).lookup "conditions") :
    conditionsField.Reads members (rule.conditions.map Condition.reread) := by
  unfold conditionsMember at hlookup
  cases hempty : rule.conditions.isEmpty with
  | true =>
      have hnone : rule.conditions.map Condition.reread = ∅ := by
        refine Dict.eq_of_entries_eq ?_
        have hentries : rule.conditions.entries = [] := List.isEmpty_iff.mp hempty
        show rule.conditions.entries.map _ = []
        rw [hentries, List.map_nil]
      rw [hempty] at hlookup
      rw [hnone]
      exact reads_defaulting_of_absent hlookup ∅
  | false =>
      rw [hempty] at hlookup
      exact reads_defaulting hkeys hlookup
        (reads_dictOf fun entry hentry => Condition.reads_toJson (hordered entry hentry)) ∅

theorem reads_fields {members : List (String × Json)} (fields : Option (List String))
    (hkeys : (members.map (·.1)).Nodup)
    (hlookup : members.lookup "fields" = (fieldsMember fields).lookup "fields") :
    fieldsField.Reads members fields := by
  cases fields with
  | none => exact reads_defaulting_of_absent hlookup none
  | some fields =>
      have htexts : texts.Reads (textsJson fields) fields := by
        have hlist : texts.Reads (textsJson fields) (fields.map id) :=
          reads_listOf fun field _ => reads_text field
        rwa [List.map_id] at hlist
      exact reads_defaulting hkeys hlookup (reads_nullable htexts nofun) none

theorem lookup_conditionsMember_of_ne {name : String} (hname : name ≠ "conditions")
    (conditions : Conditions) : (conditionsMember conditions).lookup name = none := by
  unfold conditionsMember
  split
  · rfl
  · simp [List.lookup_cons, beq_false_of_ne hname]

theorem lookup_fieldsMember_of_ne {name : String} (hname : name ≠ "fields")
    (fields : Option (List String)) : (fieldsMember fields).lookup name = none := by
  cases fields with
  | none => rfl
  | some fields => simp [fieldsMember, List.lookup_cons, beq_false_of_ne hname]

theorem reads_toJson (hordered : rule.Ordered) : Rule.decoder.Reads rule.toJson rule.reread := by
  have hkeys : (([("decision", .str rule.decision.name),
      ("actions", .arr (rule.actions.map Action.toJson)), ("subject", rule.subject.toJson)] ++
      conditionsMember rule.conditions ++ fieldsMember rule.fields ++
      [("origin", Json.str rule.origin)]).map (·.1)).Nodup := by
    unfold conditionsMember fieldsMember
    split <;> split <;> simp
  have hdecision : Decision.decoder.Reads (.str rule.decision.name) rule.decision := by
    cases rule.decision <;> exact reads_variant rfl
  have hactions : (listOf Action.decoder).Reads (.arr (rule.actions.map Action.toJson))
      (rule.actions.map fun action => .ofName action.name) :=
    reads_listOf fun action _ => reads_mapped Action.ofName (reads_text action.name)
  have hsubject : Subject.decoder.Reads rule.subject.toJson (.ofName rule.subject.name) :=
    reads_mapped Subject.ofName (reads_text rule.subject.name)
  refine reads_record _ (.seq (.seq (.seq (.seq (.seq (.map Rule.mk
    (reads_required hkeys ?_ hdecision)) (reads_required hkeys ?_ hactions))
    (reads_required hkeys ?_ hsubject)) (reads_conditions hordered hkeys ?_))
    (reads_fields rule.fields hkeys ?_)) (reads_required hkeys ?_ (reads_text rule.origin))) <;>
  simp [List.lookup_append, List.lookup_cons, lookup_conditionsMember_of_ne,
    lookup_fieldsMember_of_ne]

end Rule

/-! ## Policies -/

theorem reads_ofOption {α : Type} {decoder : Decoder α} {write : α → Json} {value : Option α}
    (hreads : ∀ present, decoder.Reads (write present) present)
    (hnull : ∀ present, write present ≠ .null) :
    (nullable decoder).Reads (.ofOption write value) value := by
  cases value with
  | none => exact reads_nullable_null
  | some present => exact reads_nullable (hreads present) (hnull present)

theorem Identity.reads_toJson (identity : Identity) :
    Identity.decoder.Reads identity.toJson identity := by
  have htext : ∀ value : Option String, (nullable Decode.text).Reads (.ofOption .str value) value :=
    fun value => reads_ofOption reads_text nofun
  refine reads_record _ (.seq (.seq (.seq (.map Identity.mk
    (reads_optional (by simp) rfl (reads_ofOption reads_identifier nofun)))
    (reads_optional (by simp) rfl (htext _))) (reads_optional (by simp) rfl (htext _)))
    (reads_optional (by simp) rfl (htext _)))

namespace Policy

variable {policy : Policy}

/-- The policy that a stored policy reads back as. -/
def reread (policy : Policy) : Policy := { policy with rules := policy.rules.map Rule.reread }

/-- **A stored policy reads back** as what its names and written forms say, with the time at
which it was made. -/
theorem reads_toJson (hordered : ∀ rule ∈ policy.rules, rule.Ordered) (time : String) :
    Policy.decoder.Reads (policy.toJson time) (policy.reread, time) := by
  have hrules : (listOf Rule.decoder).Reads (.arr (policy.rules.map Rule.toJson))
      (policy.rules.map Rule.reread) :=
    reads_listOf fun rule hrule => Rule.reads_toJson (hordered rule hrule)
  exact reads_record _ (.seq (.seq (.map _
    (reads_optional (by simp) rfl (reads_ofOption Identity.reads_toJson nofun)))
    (reads_required (by simp) rfl hrules)) (reads_required (by simp) rfl (reads_time time)))

end Policy

/-! ## Texts of policies -/

/-- The values in the conditions of a rule are without numbers. -/
def Rule.NumberFree (depth : Nat) (rule : Rule) : Prop :=
  ∀ entry ∈ rule.conditions.entries, Json.NumberFree depth entry.2.toJson

theorem Json.numberFree_ofOption {α : Type} {write : α → Json} {depth : Nat}
    (hwrite : ∀ present, NumberFree depth (write present)) (value : Option α) :
    NumberFree depth (.ofOption write value) := by
  cases value with
  | none => cases depth <;> trivial
  | some present => exact hwrite present

theorem Identity.numberFree_toJson (depth : Nat) (identity : Identity) :
    identity.toJson.NumberFree (depth + 1) := by
  have htext : ∀ value : Option String, Json.NumberFree depth (.ofOption .str value) :=
    Json.numberFree_ofOption (Json.numberFree_str depth)
  have huuid : ∀ id : Uuid, id.toJson.NumberFree depth :=
    fun id => Json.numberFree_str depth id.text
  have hid := Json.numberFree_ofOption huuid identity.id
  simp [Identity.toJson, Json.NumberFree, htext, hid]

namespace Rule

variable {depth : Nat} {rule : Rule} {entry : String × Json}

theorem NumberFree.of_mem_conditionsMember (hfree : rule.NumberFree depth)
    (hentry : entry ∈ conditionsMember rule.conditions) : entry.2.NumberFree (depth + 1) := by
  unfold conditionsMember at hentry
  split at hentry
  · contradiction
  · obtain rfl := List.mem_singleton.mp hentry
    intro member hmember
    obtain ⟨condition, hcondition, rfl⟩ := List.mem_map.mp hmember
    exact hfree condition hcondition

theorem numberFree_of_mem_fieldsMember (depth : Nat) {fields : Option (List String)}
    (hentry : entry ∈ fieldsMember fields) : entry.2.NumberFree (depth + 1) := by
  cases fields with
  | none => contradiction
  | some fields =>
      obtain rfl := List.mem_singleton.mp hentry
      exact Json.numberFree_arr fun field _ => Json.numberFree_str depth field

theorem NumberFree.toJson (hfree : rule.NumberFree depth) :
    rule.toJson.NumberFree (depth + 2) := by
  intro entry hentry
  simp only [List.mem_append, List.mem_cons, List.not_mem_nil, or_false] at hentry
  rcases hentry with (((rfl | rfl | rfl) | hconditions) | hfields) | rfl
  · exact Json.numberFree_str _ _
  · exact Json.numberFree_arr fun action _ => Json.numberFree_str depth action.name
  · exact Json.numberFree_str _ _
  · exact hfree.of_mem_conditionsMember hconditions
  · exact numberFree_of_mem_fieldsMember depth hfields
  · exact Json.numberFree_str _ _

end Rule

/-- A policy is without numbers if its conditions are. -/
theorem Policy.numberFree_toJson {depth : Nat} {policy : Policy}
    (hfree : ∀ rule ∈ policy.rules, rule.NumberFree depth) (time : String) :
    (policy.toJson time).NumberFree (depth + 4) := by
  intro entry hentry
  simp only [List.mem_cons, List.not_mem_nil, or_false] at hentry
  rcases hentry with rfl | rfl | rfl
  · exact Json.numberFree_ofOption (Identity.numberFree_toJson (depth + 2)) policy.actor
  · exact Json.numberFree_arr fun rule hrule => (hfree rule hrule).toJson
  · exact Json.numberFree_str _ _

end Entitlement
