import JsonRules.Except
import JsonRules.Test.Command

namespace JsonRules

/-- A member that may be missing or null, and otherwise has the form of an `α`. -/
inductive Json.MayHave {α : Type} (form : α → Json) (v : Json) (key : String) : Option α → Prop
  | missing : v.get? key = none → MayHave form v key none
  | null : v.get? key = some .null → MayHave form v key none
  | given {a : α} : v.get? key = some (form a) → MayHave form v key (some a)

namespace Builtin

/-- What a test compares with is the member `value` of an object. Other arguments stand for
themselves, but for null. -/
inductive Operand : Json → Json → Prop
  | member {members : List (String × Json)} {v : Json} :
      members.lookup "value" = some v → Operand (.object members) v
  | bare {v : Json} : v ≠ .null → (∀ members, v ≠ .object members) → Operand v v

/-- The value under the first of the keys that there is, or else the arguments themselves. -/
inductive Under (arguments : Json) : List String → Json → Prop
  | whole : Under arguments [] arguments
  | here {key : String} {keys : List String} {v : Json} :
      arguments.get? key = some v → Under arguments (key :: keys) v
  | later {key : String} {keys : List String} {v : Json} :
      arguments.get? key = none → Under arguments keys v → Under arguments (key :: keys) v

/-- Bounds belong to a range unless they are said to be exclusive. -/
inductive Exclusive (arguments : Json) : Bool → Prop
  | missing : arguments.get? "exclusive" = none → Exclusive arguments false
  | given {b : Bool} : arguments.get? "exclusive" = some (.bool b) → Exclusive arguments b

def Bounded {α : Type} (crossed : α → α → Prop) (least most : Option α) : Prop :=
  (least ≠ none ∨ most ≠ none) ∧ ∀ lo ∈ least, ∀ hi ∈ most, ¬ crossed lo hi

inductive Binds : Builtin → Json → Test → Prop
  | required (arguments : Json) : Binds required arguments .required
  | absent (arguments : Json) : Binds absent arguments .absent
  | notEmpty (arguments : Json) : Binds notEmpty arguments .notEmpty
  | equals {arguments v : Json} : Operand arguments v → Binds equals arguments (.equals v)
  | notEquals {arguments v : Json} : Operand arguments v → Binds notEquals arguments (.notEquals v)
  | contains {arguments v : Json} : Operand arguments v → Binds contains arguments (.contains v)
  | compare {arguments v : Json} {text : String} {c : Comparison} :
      arguments.get? "op" = some (.string text) → Comparison.ofText? text = some c →
        arguments.get? "value" = some v → Binds compare arguments (.compare c v)
  | range {arguments : Json} {least most : Option Number} {exclusive : Bool} :
      arguments.MayHave .number "min" least → arguments.MayHave .number "max" most →
        Bounded (fun lo hi => lo.compare hi = .gt) least most → Exclusive arguments exclusive →
        Binds range arguments (.range least most exclusive)
  | pattern {arguments : Json} {text : String} {p : Pattern} :
      Under arguments ["regex", "pattern"] (.string text) → Pattern.ofText text = .ok p →
        Binds pattern arguments (.pattern p)
  | oneOf {arguments : Json} {values : List Json} :
      Under arguments ["values"] (.array values) → Binds oneOf arguments (.oneOf values)
  | kind {arguments : Json} {text : String} {k : ValueKind} :
      Under arguments ["type"] (.string text) → ValueKind.ofText? text = some k →
        Binds kind arguments (.kind k)
  | length {arguments : Json} {least most : Option Nat} :
      arguments.MayHave .ofNat "min" least → arguments.MayHave .ofNat "max" most →
        Bounded (fun lo hi => hi < lo) least most →
        Binds length arguments (.length least most)

section Readers

variable {arguments : Json} {key : String}

theorem orFault_eq_ok_iff {α : Type} {o : Option α} {fault : ArgumentFault} {a : α} :
    orFault o fault = .ok a ↔ o = some a := by
  cases o <;> simp [orFault]

theorem string?_eq_some_iff {v : Json} {s : String} : v.string? = some s ↔ v = .string s := by
  cases v <;> simp [Json.string?]

theorem array?_eq_some_iff {v : Json} {items : List Json} :
    v.array? = some items ↔ v = .array items := by
  cases v <;> simp [Json.array?]

theorem operand_eq_ok_iff {v : Json} : operand arguments = .ok v ↔ Operand arguments v := by
  constructor
  · intro h
    unfold operand at h
    split at h
    · exact .member (orFault_eq_ok_iff.1 h)
    · cases h
    · next hobject hnull =>
      cases h
      exact .bare hnull hobject
  · rintro (hmember | ⟨hnull, hobject⟩)
    · exact orFault_eq_ok_iff.2 hmember
    · unfold operand
      split
      · exact absurd rfl (hobject _)
      · exact absurd rfl hnull
      · rfl

theorem numberArgument_eq_ok_iff {o : Option Number} :
    numberArgument arguments key = .ok o ↔ arguments.MayHave .number key o := by
  constructor
  · intro h
    unfold numberArgument at h
    split at h
    · next hget => cases h; exact .missing hget
    · next hget => cases h; exact .null hget
    · next hget => cases h; exact .given hget
    · cases h
  · rintro (hget | hget | hget) <;> rw [numberArgument, hget]

theorem bind_unsigned?_eq_some_iff {v : Json} {n : Nat} :
    v.number?.bind Number.unsigned? = some n ↔ v = .ofNat n := by
  constructor
  · intro h
    obtain ⟨x, hx, hn⟩ := Option.bind_eq_some_iff.1 h
    cases v <;> cases hx
    cases x with
    | double d => cases hn
    | integer i =>
      rw [Number.unsigned?, Option.ite_none_right_eq_some] at hn
      obtain ⟨hi, hn⟩ := hn
      cases hn
      rw [Json.ofNat, Int.toNat_of_nonneg hi]
  · rintro rfl
    simp [Json.ofNat, Json.number?, Number.unsigned?]

theorem lengthArgument_eq_ok_iff {o : Option Nat} :
    lengthArgument arguments key = .ok o ↔ arguments.MayHave .ofNat key o := by
  constructor
  · intro h
    unfold lengthArgument at h
    split at h
    · next hget => cases h; exact .missing hget
    · next hget => cases h; exact .null hget
    · next hget =>
      obtain ⟨n, hn, rfl⟩ := Except.map_eq_ok_iff.1 h
      rw [orFault_eq_ok_iff, bind_unsigned?_eq_some_iff] at hn
      exact .given (hn ▸ hget)
  · rintro (hget | hget | hget)
    · rw [lengthArgument, hget]
    · rw [lengthArgument, hget]
    · rw [lengthArgument, hget]
      exact Except.map_eq_ok_iff.2
        ⟨_, orFault_eq_ok_iff.2 (bind_unsigned?_eq_some_iff.2 rfl), rfl⟩

theorem whole_eq_iff {v : Json} : arguments = v ↔ Under arguments [] v := by
  constructor
  · rintro rfl
    exact .whole
  · rintro ⟨⟩
    rfl

theorem getD_eq_iff {keys : List String} {w v : Json} (h : w = v ↔ Under arguments keys v) :
    (arguments.get? key).getD w = v ↔ Under arguments (key :: keys) v := by
  constructor
  · intro hv
    rcases hget : arguments.get? key with _ | u
    · rw [hget, Option.getD_none] at hv
      exact .later hget (h.1 hv)
    · rw [hget, Option.getD_some] at hv
      exact .here (hv ▸ hget)
  · rintro (_ | hhere | ⟨hmissing, hlater⟩)
    · rw [hhere, Option.getD_some]
    · rw [hmissing, Option.getD_none, h.2 hlater]

theorem exclusiveArgument_eq_ok_iff {b : Bool} :
    exclusiveArgument arguments = .ok b ↔ Exclusive arguments b := by
  constructor
  · intro h
    unfold exclusiveArgument at h
    split at h
    · next hget => cases h; exact .missing hget
    · next v hget =>
      rw [orFault_eq_ok_iff] at h
      cases v <;> cases h
      exact .given hget
  · rintro (hget | hget) <;> rw [exclusiveArgument, hget]
    rfl

theorem checkBounds_eq_ok_iff {α : Type} {crossed : α → α → Bool} {number : α → Number}
    {least most : Option α} {u : Unit} :
    checkBounds crossed number least most = .ok u ↔
      Bounded (fun lo hi => crossed lo hi = true) least most := by
  rcases least with _ | lo <;> rcases most with _ | hi <;> simp [checkBounds, Bounded]

end Readers

section Tests

variable {arguments : Json} {t : Test}

theorem compareTest_eq_ok_iff : compareTest arguments = .ok t ↔ Binds compare arguments t := by
  simp only [compareTest, Except.bind_eq_ok_iff, orFault_eq_ok_iff, Option.bind_eq_some_iff,
    Except.pure_eq_ok_iff]
  constructor
  · rintro ⟨text, ⟨v, hop, htext⟩, c, hc, operand, hvalue, rfl⟩
    cases v <;> cases htext
    exact .compare hop hc hvalue
  · intro h
    cases h with
    | compare hop hc hvalue => exact ⟨_, ⟨_, hop, rfl⟩, _, hc, _, hvalue, rfl⟩

theorem gt_holds_iff {lo hi : Number} :
    Comparison.gt.holds (.number lo) (.number hi) = true ↔ lo.compare hi = .gt := by
  simp [Comparison.holds, Comparison.apply, Json.compare?]

theorem rangeTest_eq_ok_iff : rangeTest arguments = .ok t ↔ Binds range arguments t := by
  simp only [rangeTest, Except.bind_eq_ok_iff, numberArgument_eq_ok_iff, checkBounds_eq_ok_iff,
    gt_holds_iff, exclusiveArgument_eq_ok_iff, Except.pure_eq_ok_iff]
  constructor
  · rintro ⟨least, hleast, most, hmost, -, hbounds, exclusive, hexclusive, rfl⟩
    exact .range hleast hmost hbounds hexclusive
  · intro h
    cases h with
    | range hleast hmost hbounds hexclusive =>
      exact ⟨_, hleast, _, hmost, (), hbounds, _, hexclusive, rfl⟩

theorem lengthTest_eq_ok_iff : lengthTest arguments = .ok t ↔ Binds length arguments t := by
  simp only [lengthTest, Except.bind_eq_ok_iff, lengthArgument_eq_ok_iff, checkBounds_eq_ok_iff,
    decide_eq_true_eq, Except.pure_eq_ok_iff]
  constructor
  · rintro ⟨least, hleast, most, hmost, -, hbounds, rfl⟩
    exact .length hleast hmost hbounds
  · intro h
    cases h with
    | length hleast hmost hbounds => exact ⟨_, hleast, _, hmost, (), hbounds, rfl⟩

theorem patternTest_eq_ok_iff : patternTest arguments = .ok t ↔ Binds pattern arguments t := by
  simp only [patternTest, Except.bind_eq_ok_iff, orFault_eq_ok_iff, string?_eq_some_iff,
    getD_eq_iff (getD_eq_iff whole_eq_iff)]
  constructor
  · rintro ⟨text, htext, h⟩
    split at h
    · next p hp =>
      cases h
      exact .pattern htext hp
    · cases h
  · intro h
    cases h with
    | pattern htext hp =>
      refine ⟨_, htext, ?_⟩
      rw [hp]
      rfl

theorem kindTest_eq_ok_iff : kindTest arguments = .ok t ↔ Binds kind arguments t := by
  simp only [kindTest, Except.bind_eq_ok_iff, orFault_eq_ok_iff, string?_eq_some_iff,
    getD_eq_iff whole_eq_iff, Except.pure_eq_ok_iff]
  constructor
  · rintro ⟨text, htext, k, hk, rfl⟩
    exact .kind htext hk
  · intro h
    cases h with
    | kind htext hk => exact ⟨_, htext, _, hk, rfl⟩

/-- A command takes what its grammar says and nothing else, and makes the test of it that the
grammar gives. -/
theorem prepare_eq_ok_iff {b : Builtin} : b.prepare arguments = .ok t ↔ b.Binds arguments t := by
  cases b with
  | compare => exact compareTest_eq_ok_iff
  | range => exact rangeTest_eq_ok_iff
  | pattern => exact patternTest_eq_ok_iff
  | kind => exact kindTest_eq_ok_iff
  | length => exact lengthTest_eq_ok_iff
  | required | absent | notEmpty =>
    constructor
    · rintro ⟨⟩
      constructor
    · rintro ⟨⟩
      rfl
  | equals | notEquals | contains =>
    simp only [prepare, Except.map_eq_ok_iff, operand_eq_ok_iff]
    constructor
    · rintro ⟨v, hv, rfl⟩
      constructor
      exact hv
    · intro h
      cases h
      next hv => exact ⟨_, hv, rfl⟩
  | oneOf =>
    simp only [prepare, Except.map_eq_ok_iff, orFault_eq_ok_iff, array?_eq_some_iff,
      getD_eq_iff whole_eq_iff]
    constructor
    · rintro ⟨values, hvalues, rfl⟩
      exact .oneOf hvalues
    · intro h
      cases h with
      | oneOf hvalues => exact ⟨_, hvalues, rfl⟩

end Tests

end Builtin

end JsonRules
