import Entitlement.Proofs.Resolution.Provenance

/-!
# Which attributes a policy looks at

Two queries that ask the same of one policy, about resources with different attributes, may stop
at different rules, skip rules for different reasons and report different things.  They do not
when the resources agree on the attributes that the policy mentions for the request.

Agreement is meant up to `Json.same`, which is coarser than equality, since it takes the two
zeros of a binary number for one.  What matters is that equal values cannot be told apart by it:
`Json.same_congr` says that they are equal to the same values.

The argument then follows the loop.  An attribute that both resources have with equal values, or
that both lack, is looked up alike, for what the identity lends is the same
(`AgreeOn.any_same`); the conditions of a rule that is about the request therefore compare alike
(`fit_congr`); and a rule that is not about it is passed over before its conditions are read, so
the loop goes the same way from every rule on (`answerFrom_congr`).
-/

namespace Entitlement

/-! ## Equality of values

Both facts follow the nesting of the value, and only its numbers need a look. -/

namespace Binary64

theorem same_refl (x : Binary64) : x.same x = true := by
  simp [same]

/-- Equal numbers are equal to the same numbers; one that equals a zero is itself a zero. -/
theorem same_congr {x y : Binary64} (hsame : x.same y = true) (z : Binary64) :
    x.same z = y.same z := by
  simp only [same, Bool.or_eq_true, beq_iff_eq, Bool.and_eq_true] at hsame
  rcases hsame with rfl | ⟨hx, hy⟩
  · rfl
  · -- Two zeros are equal to each other and to no other number.
    have hzero : ∀ {w : Binary64}, w.isZero = true → w.same z = z.isZero := by
      intro w hw
      by_cases heq : w = z
      · subst heq
        simp [same, hw]
      · simp [same, beq_false_of_ne heq, hw]
    rw [hzero hx, hzero hy]

end Binary64

namespace Json

namespace Number

theorem same_refl (n : Number) : n.same n = true := by
  cases n with
  | int value => simp [same]
  | float value => exact value.same_refl

theorem same_congr {n m : Number} (hsame : n.same m = true) (k : Number) :
    n.same k = m.same k := by
  cases n <;> cases m <;> cases k <;> simp only [same, beq_iff_eq, Bool.false_eq_true] at hsame ⊢
  · rw [hsame]
  · exact Binary64.same_congr hsame _

end Number

mutual
/-- Every value equals itself. -/
theorem same_refl : ∀ value : Json, value.same value = true
  | .null => by simp [same]
  | .bool _ => by simp [same]
  | .num n => by simp [same, n.same_refl]
  | .str _ => by simp [same]
  | .arr items => by simp [same, sameItems_refl items]
  | .obj members => by simp [same, sameMembers_refl members]
theorem sameItems_refl : ∀ items : List Json, sameItems items items = true
  | [] => by simp [sameItems]
  | item :: rest => by simp [sameItems, same_refl item, sameItems_refl rest]
theorem sameMembers_refl : ∀ members : List (String × Json), sameMembers members members = true
  | [] => by simp [sameMembers]
  | (_, value) :: rest => by simp [sameMembers, same_refl value, sameMembers_refl rest]
end

mutual
/-- Equal values are equal to the same values. -/
theorem same_congr : ∀ {a b : Json}, a.same b = true → ∀ c : Json, a.same c = b.same c
  -- Values of different kinds are never equal; of one kind they are compared part by part.
  | .null, b, hsame, c => by
      cases b <;> simp only [same, Bool.false_eq_true] at hsame
      rfl
  | .bool _, b, hsame, c => by
      cases b <;> simp only [same, Bool.false_eq_true, beq_iff_eq] at hsame
      rw [hsame]
  | .num _, b, hsame, c => by
      cases b <;> simp only [same, Bool.false_eq_true] at hsame
      cases c <;> simp only [same]
      exact Number.same_congr hsame _
  | .str _, b, hsame, c => by
      cases b <;> simp only [same, Bool.false_eq_true, beq_iff_eq] at hsame
      rw [hsame]
  | .arr xs, b, hsame, c => by
      cases b <;> simp only [same, Bool.false_eq_true] at hsame
      cases c <;> simp only [same]
      exact sameItems_congr hsame _
  | .obj xs, b, hsame, c => by
      cases b <;> simp only [same, Bool.false_eq_true] at hsame
      cases c <;> simp only [same]
      exact sameMembers_congr hsame _
theorem sameItems_congr : ∀ {xs ys : List Json}, sameItems xs ys = true →
    ∀ zs : List Json, sameItems xs zs = sameItems ys zs
  | [], ys, hsame, zs => by
      cases ys <;> simp only [sameItems, Bool.false_eq_true] at hsame
      rfl
  | x :: xs, ys, hsame, zs => by
      cases ys <;> simp only [sameItems, Bool.false_eq_true, Bool.and_eq_true] at hsame
      cases zs <;> simp only [sameItems]
      rw [same_congr hsame.1, sameItems_congr hsame.2]
theorem sameMembers_congr : ∀ {xs ys : List (String × Json)}, sameMembers xs ys = true →
    ∀ zs : List (String × Json), sameMembers xs zs = sameMembers ys zs
  | [], ys, hsame, zs => by
      cases ys <;> simp only [sameMembers, Bool.false_eq_true] at hsame
      rfl
  | (key, x) :: xs, ys, hsame, zs => by
      cases ys <;>
        simp only [sameMembers, Bool.false_eq_true, Bool.and_eq_true, beq_iff_eq] at hsame
      cases zs <;> simp only [sameMembers]
      rw [hsame.1.1, same_congr hsame.1.2, sameMembers_congr hsame.2]
end

end Json

/-! ## Resources that agree -/

variable {first second : Context} {identity : Option Identity}

/-! ### Attributes -/

namespace Context

/-- Both resources lack an attribute, or both have it with equal values. -/
def AgreeOn (first second : Context) (key : String) : Prop :=
  Option.Rel (fun value other => value.same other = true)
    (first.attributes.get? key) (second.attributes.get? key)

/-- Resources agree on an attribute that reads the same in both. -/
theorem AgreeOn.of_eq {key : String}
    (hequal : first.attributes.get? key = second.attributes.get? key) :
    first.AgreeOn second key := by
  unfold AgreeOn
  rw [hequal]
  cases second.attributes.get? key with
  | none => exact .none
  | some value => exact .some value.same_refl

/-- Whether an attribute has a value comes out the same for resources that agree on it.  One
that both lack is lent to both by the same identity. -/
theorem AgreeOn.any_same {key : String} (hagree : first.AgreeOn second key) (value : Json) :
    (first.lookup? key identity).any (·.same value) =
      (second.lookup? key identity).any (·.same value) := by
  unfold AgreeOn at hagree
  unfold lookup?
  -- What both lack is lent by the identity, which is the same for both.
  generalize first.attributes.get? key = own at hagree ⊢
  generalize second.attributes.get? key = others at hagree ⊢
  cases hagree with
  | none => rfl
  | some hsame => exact Json.same_congr hsame value

/-- Conditions compare alike with resources that agree on their attributes. -/
theorem fit_congr {entries : List (String × Condition)}
    (hagree : ∀ entry ∈ entries, first.AgreeOn second entry.1) :
    first.fit identity entries = second.fit identity entries := by
  induction entries with
  | nil => rfl
  | cons entry rest ih =>
      obtain ⟨key, condition⟩ := entry
      obtain ⟨hkey, hrest⟩ := List.forall_mem_cons.mp hagree
      rw [fit, fit]
      cases condition.demanded identity with
      | error placeholder => rfl
      | ok value => simp only [hkey.any_same, ih hrest]

end Context

/-! ### Rules -/

namespace Rule

/-- A rule mentions an attribute for a request when the request is about its subject and one
of its actions and the attribute occurs in its conditions. -/
structure Mentions (rule : Rule) (action : Action) (subject : Subject) (key : String) : Prop where
  subject : rule.subject.covers subject = true
  action : rule.covers action = true
  key : ∃ condition, (key, condition) ∈ rule.conditions.entries

variable {rule : Rule} {action : Action} {subject : Subject}

theorem concerns_congr (hfield : first.field = second.field) :
    rule.concerns ⟨action, subject, first⟩ = rule.concerns ⟨action, subject, second⟩ := by
  simp only [concerns, hfield]

/-- A rule that is not passed over mentions whatever its conditions are about. -/
theorem mentions_of_concerns {context : Context} {entry : String × Condition}
    (hconcerns : rule.concerns ⟨action, subject, context⟩ = true)
    (hentry : entry ∈ rule.conditions.entries) : rule.Mentions action subject entry.1 := by
  simp only [concerns, Bool.and_eq_true] at hconcerns
  obtain ⟨⟨hsubject, haction⟩, _⟩ := hconcerns
  exact ⟨hsubject, haction, entry.2, hentry⟩

end Rule

/-! ### The loop -/

namespace Policy

variable {action : Action} {subject : Subject}

theorem answerFrom_congr {rules : List Rule} {allowed : Bool} (hfield : first.field = second.field)
    (hagree : ∀ rule ∈ rules, ∀ key, rule.Mentions action subject key →
      first.AgreeOn second key) :
    answerFrom identity ⟨action, subject, first⟩ allowed rules =
      answerFrom identity ⟨action, subject, second⟩ allowed rules := by
  induction rules generalizing allowed with
  | nil => rfl
  | cons rule rest ih =>
      obtain ⟨hrule, hrest⟩ := List.forall_mem_cons.mp hagree
      rw [answerFrom, answerFrom, Rule.concerns_congr hfield]
      by_cases hconcerns : rule.concerns ⟨action, subject, second⟩ = true
      · -- A rule that is about the request mentions all that its conditions look at.
        have hfit : first.fit identity rule.conditions.entries =
            second.fit identity rule.conditions.entries :=
          Context.fit_congr fun entry hentry =>
            hrule entry.1 (Rule.mentions_of_concerns hconcerns hentry)
        simp only [hconcerns, if_true, hfit, ih hrest]
      · rw [if_neg hconcerns, if_neg hconcerns, ih hrest]

/-- **Only mentioned attributes matter.**  Let two queries ask for the same action on the same
kind of resource and name the same field or none, and let them be answered for the same
identity, which either of them may bring or leave to the policy.  When their resources agree
on every attribute that some rule mentions for the request, the policy gives both the same
answer and reports the same. -/
theorem can_congr_of_agreeOn (policy : Policy) (hfield : first.field = second.field)
    (hidentity : policy.identity first = policy.identity second)
    (hagree : ∀ key, (∃ rule ∈ policy.rules, rule.Mentions action subject key) →
      first.AgreeOn second key) :
    policy.can ⟨action, subject, first⟩ = policy.can ⟨action, subject, second⟩ := by
  unfold can
  rw [hidentity]
  apply answerFrom_congr hfield
  intro rule hrule key hmentions
  exact hagree key ⟨rule, hrule, hmentions⟩

end Policy

/-! ### A balanced draft -/

namespace Sample

/-- Documents with a balance of zero may be read, drafts may be updated, and nothing may be
done with what is sealed. -/
def ledger : Policy where
  actor := some (.ofActor actor)
  rules :=
    [⟨.allow, [.read], .document, Dict.ofList [("balance", .literal (.num (.float (.zero false))))],
        none, "documentRepoAccess.balanced"⟩,
      ⟨.allow, [.update], .document, Dict.ofList [("status", .text "draft")], none,
        "documentRepoAccess.drafts"⟩,
      ⟨.deny, [.manage], .all, Dict.ofList [("sealed", .literal (.bool true))], none, "sealed"⟩]

/-- A draft with a balance of minus zero. -/
def draft : Context :=
  ⟨none, Dict.ofList [("balance", .num (.float (.zero true))), ("status", .str "draft")], none⟩

/-- A document with a balance of zero that is no draft, with the actor named once more. -/
def report : Context :=
  ⟨some (.ofActor actor),
    Dict.ofList [("balance", .num (.float (.zero false))), ("status", .str "final")], none⟩

/-- The two documents agree on everything that is mentioned for reading. -/
theorem agreeOn_of_mentions (key : String)
    (hmentions : ∃ rule ∈ ledger.rules, rule.Mentions .read .document key) :
    draft.AgreeOn report key := by
  obtain ⟨rule, hrule, _, haction, condition, hentry⟩ := hmentions
  simp only [ledger, List.mem_cons, List.not_mem_nil, or_false] at hrule
  rcases hrule with rfl | rfl | rfl
  · obtain rfl : key = "balance" := congrArg Prod.fst (List.mem_singleton.mp hentry)
    exact .some rfl
  · exact absurd haction (by decide)
  · obtain rfl : key = "sealed" := congrArg Prod.fst (List.mem_singleton.mp hentry)
    exact .of_eq rfl

end Sample

/-- A document is read whether it is a draft or not, since no rule asks for that when it is
read; it is updated as a draft only. -/
theorem status_counts_for_updates_only :
    Sample.ledger.can ⟨.read, .document, Sample.draft⟩ =
        Sample.ledger.can ⟨.read, .document, Sample.report⟩ ∧
      (Sample.ledger.can ⟨.read, .document, Sample.draft⟩).value = true ∧
      (Sample.ledger.can ⟨.update, .document, Sample.draft⟩).value = true ∧
      (Sample.ledger.can ⟨.update, .document, Sample.report⟩).value = false := by
  refine ⟨?_, by decide, by decide, by decide⟩
  exact Policy.can_congr_of_agreeOn Sample.ledger rfl rfl Sample.agreeOn_of_mentions

end Entitlement
