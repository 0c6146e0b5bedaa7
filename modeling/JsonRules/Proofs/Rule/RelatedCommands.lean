import JsonRules.Json.Members
import JsonRules.Proofs.Rule.WellFormed
import JsonRules.Proofs.Test.Presence

namespace JsonRules

namespace Comparison

/-- The comparison with a lower bound, which may belong to the range or not. -/
def above (exclusive : Bool) : Comparison := if exclusive then gt else gte

def below (exclusive : Bool) : Comparison := if exclusive then lt else lte

theorem ofText?_symbol (c : Comparison) : ofText? c.symbol = some c := by
  cases c <;> rfl

/-- Nothing but a number is ordered with a number. -/
theorem isSome_number?_of_holds {c : Comparison} {v : Json} {n : Number}
    (horder : c ∉ [eq, neq]) (h : c.holds v (.number n) = true) : v.number?.isSome = true := by
  cases v with
  | number m => rfl
  | _ => cases c <;> simp_all [holds, apply, Json.compare?]

end Comparison

namespace Test

/-- The comparisons that a range is made of, one for each bound. -/
def rangeParts (least most : Option Number) (exclusive : Bool) : List (Comparison × Number) :=
  (least.map fun lo => (.above exclusive, lo)).toList ++
    (most.map fun hi => (.below exclusive, hi)).toList

section Passing

variable {least most : Option Number} {exclusive : Bool} {s : Selector} {document : Json}

theorem rangeParts_ne_nil (hbound : least ≠ none ∨ most ≠ none) :
    rangeParts least most exclusive ≠ [] := by
  rcases least with _ | lo <;> rcases most with _ | hi <;> simp_all [rangeParts]

/-- A range that has a bound need not ask for a number, as its comparisons do. -/
theorem isWithin_iff (hbound : least ≠ none ∨ most ≠ none) {v : Json} :
    isWithin least most exclusive v = true ↔
      ∀ part ∈ rangeParts least most exclusive, part.1.holds v (.number part.2) = true := by
  have habove (lo : Number) (h : (Comparison.above exclusive).holds v (.number lo) = true) :
      v.number?.isSome = true :=
    Comparison.isSome_number?_of_holds (by cases exclusive <;> decide) h
  have hbelow (hi : Number) (h : (Comparison.below exclusive).holds v (.number hi) = true) :
      v.number?.isSome = true :=
    Comparison.isSome_number?_of_holds (by cases exclusive <;> decide) h
  have hwithin : isWithin least most exclusive v = (v.number?.isSome &&
      least.all ((Comparison.above exclusive).holds v <| .number ·) &&
      most.all ((Comparison.below exclusive).holds v <| .number ·)) := rfl
  rw [hwithin, rangeParts, List.forall_mem_append]
  rcases least with _ | lo <;> rcases most with _ | hi
  · simp at hbound
  · simpa using hbelow hi
  · simpa using habove lo
  · simpa [and_assoc] using fun h _ => habove lo h

/-- A range passes on a path exactly if all its comparisons do. -/
theorem passes_range_iff (hbound : least ≠ none ∨ most ≠ none) :
    (range least most exclusive).passes (s.locate document) = true ↔
      ∀ part ∈ rangeParts least most exclusive,
        (compare part.1 (.number part.2)).passes (s.locate document) = true := by
  have hpart (part : Comparison × Number) :
      (compare part.1 (.number part.2)).passes (s.locate document) = true ↔
        (s.locate document).complete = true ∧
          ∀ v, Reaches s.segments document v → part.1.holds v (.number part.2) = true :=
    passes_iff (by simp) (by simp)
  rw [passes_iff (by simp) (by simp)]
  simp only [passesValue, isWithin_iff hbound, hpart]
  -- without a part nothing would say that the resolution is complete
  obtain ⟨first, hfirst⟩ := List.exists_mem_of_ne_nil _ (rangeParts_ne_nil hbound)
  constructor
  · rintro ⟨hcomplete, hvalues⟩ part hpart
    exact ⟨hcomplete, fun v hv => hvalues v hv part hpart⟩
  · intro h
    exact ⟨(h first hfirst).1, fun v hv part hpart => (h part hpart).2 v hv⟩

/-- What a test that is not about presence finds depends on no more than which values pass. -/
theorem passes_congr {t u : Test} (ht : t ≠ absent ∧ t ≠ required) (hu : u ≠ absent ∧ u ≠ required)
    (h : ∀ v, t.passesValue v = u.passesValue v) :
    t.passes (s.locate document) = u.passes (s.locate document) := by
  rw [Bool.eq_iff_iff, passes_iff ht.1 ht.2, passes_iff hu.1 hu.2]
  simp only [h]

end Passing

end Test

namespace Builtin

def valueArguments (v : Json) : Json := .object [("value", v)]

def valuesArguments (values : List Json) : Json := .object [("values", .array values)]

def compareArguments (c : Comparison) (v : Json) : Json :=
  .object [("op", .string c.symbol), ("value", v)]

def saysExclusive (arguments : Json) : Bool :=
  (arguments.get? "exclusive").bind Json.bool? == some true

/-- The arguments of the comparison with the bound under a key, if there is one. -/
def boundArguments (arguments : Json) (key : String) (c : Comparison) : List Json :=
  (((arguments.get? key).filter (!·.isNull)).map (compareArguments c)).toList

def rangeArguments (arguments : Json) : List Json :=
  boundArguments arguments "min" (.above (saysExclusive arguments)) ++
    boundArguments arguments "max" (.below (saysExclusive arguments))

section Binding

variable {arguments : Json}

theorem binds_compareArguments (c : Comparison) (v : Json) :
    Binds compare (compareArguments c v) (.compare c v) :=
  .compare rfl c.ofText?_symbol rfl

theorem boundArguments_eq {key : String} {bound : Option Number}
    (h : arguments.MayHave .number key bound) (c : Comparison) :
    boundArguments arguments key c = (bound.map fun n => (c, n)).toList.map fun part =>
      compareArguments part.1 (.number part.2) := by
  obtain hmissing | hnull | hgiven := h
  · rw [boundArguments, hmissing]
    rfl
  · rw [boundArguments, hnull]
    rfl
  · rw [boundArguments, hgiven]
    rfl

theorem saysExclusive_eq {exclusive : Bool} (h : Exclusive arguments exclusive) :
    saysExclusive arguments = exclusive := by
  obtain hmissing | hgiven := h
  · rw [saysExclusive, hmissing]
    rfl
  · rw [saysExclusive, hgiven]
    cases exclusive <;> rfl

/-- The bounds that the arguments of a range write are those of the test that it makes of them. -/
theorem exists_rangeArguments_eq {t : Test} (h : Binds range arguments t) :
    ∃ least most exclusive, t = .range least most exclusive ∧ (least ≠ none ∨ most ≠ none) ∧
      rangeArguments arguments = (Test.rangeParts least most exclusive).map fun part =>
        compareArguments part.1 (.number part.2) := by
  cases h with
  | range hleast hmost hbounds hexclusive =>
    refine ⟨_, _, _, rfl, hbounds.1, ?_⟩
    rw [rangeArguments, saysExclusive_eq hexclusive, boundArguments_eq hleast,
      boundArguments_eq hmost, ← List.map_append]
    rfl

end Binding

end Builtin

/-- The same object with another command and other arguments. -/
def Json.calling (object : Json) (command : String) (arguments : Json) : Json :=
  match object with
  | .object members =>
    .object (Members.insert "command" (.string command)
      (Members.insert "arguments" arguments members))
  | v => v

theorem Json.MayHave.congr {α : Type} {form : α → Json} {v w : Json} {key : String} {o : Option α}
    (h : v.MayHave form key o) (hget : w.get? key = v.get? key) : w.MayHave form key o := by
  obtain hmissing | hnull | hgiven := h
  · exact .missing (hget.trans hmissing)
  · exact .null (hget.trans hnull)
  · exact .given (hget.trans hgiven)

theorem Registry.Binds.of_builtin {registry : Registry} {command : String} {arguments : Json}
    {t : Test} (h : registry.Binds command arguments t) {b : Builtin}
    (hfind : registry.find? command = some (.builtin b)) : b.Binds arguments t := by
  cases h with
  | builtin hbuiltin hbinds =>
    cases hfind.symm.trans hbuiltin
    exact hbinds
  | custom hcustom => cases hfind.symm.trans hcustom

namespace Rule

/-- What a rule document says of a target, or why it says nothing. -/
def verdict (registry : Registry) (document target : Json) (explain : Bool) :
    Except RuleError Bool :=
  (ofDocument registry document).map fun r => (r.evaluate target explain).valid

section Calling

variable {registry : Registry} {object arguments : Json} {command : String} {c : Check} {t : Test}

theorem get?_calling {v : Json} (h : object.get? "command" = some v) (command : String)
    (arguments : Json) (key : String) :
    (object.calling command arguments).get? key =
      if key = "command" then some (.string command)
      else if key = "arguments" then some arguments else object.get? key := by
  obtain ⟨members, rfl⟩ := Json.exists_object_of_get? h
  rw [Json.calling, Json.get?, Members.lookup_insert, Members.lookup_insert, Json.get?]

/-- A check that calls another command is a check on the same path. -/
theorem exists_reads_calling (h : Reads registry object (.check c))
    (hbinds : registry.Binds command arguments t) :
    ∃ d : Check, Reads registry (object.calling command arguments) (.check d) ∧
      d.selector = c.selector ∧ d.test = t := by
  obtain ⟨hhead⟩ := h
  obtain ⟨hoperator, hwritten⟩ := RuleHead.ofJson_eq_ok_iff.1 hhead
  have hget := get?_calling hwritten.command command arguments
  have hother {key : String} (hcommand : key ≠ "command") (harguments : key ≠ "arguments") :
      (object.calling command arguments).get? key = object.get? key := by
    rw [hget, if_neg hcommand, if_neg harguments]
  obtain ⟨description, hdescription, -⟩ := hwritten.description
  obtain ⟨comment, hcomment, hcommented⟩ := hwritten.comment
  refine ⟨⟨c.selector, command, arguments, description.getD (command ++ "@" ++ c.selector.text),
    c.comment, t, object.calling command arguments⟩, .check (RuleHead.ofJson_eq_ok_iff.2 ?_), rfl,
    rfl⟩
  refine .check ((hother (by decide) (by decide)).trans hoperator) ?_
  exact {
    selector := (hother (by decide) (by decide)).trans hwritten.selector
    denotes := hwritten.denotes
    command := by rw [hget, if_pos rfl]
    arguments := by rw [hget, if_neg (by decide), if_pos rfl, Option.getD_some]
    test := hbinds
    description := ⟨_, hdescription.congr (hother (by decide) (by decide)), rfl⟩
    comment := ⟨_, hcomment.congr (hother (by decide) (by decide)), hcommented⟩
    document := rfl }

/-- What is read of such a check is bound to its arguments. -/
theorem exists_binds_of_reads_calling (h : Reads registry object (.check c)) {r : Rule}
    (hr : Reads registry (object.calling command arguments) r) :
    ∃ t, registry.Binds command arguments t := by
  have hwritten := isWritten_of_reads h
  have hget := get?_calling hwritten.command command arguments
  have hcommand : (object.calling command arguments).get? "command" = some (.string command) := by
    rw [hget, if_pos rfl]
  cases hr with
  | @check _ d hhead =>
    have hcalled := isWritten_of_reads (.check hhead)
    have heq : d.command = command :=
      Json.string.inj (Option.some.inj (hcalled.command.symm.trans hcommand))
    have hbinds := hcalled.test
    rw [heq, hcalled.arguments, hget, if_neg (by decide), if_pos rfl, Option.getD_some] at hbinds
    exact ⟨_, hbinds⟩
  | group hhead _ =>
    cases RuleHead.ofJson_eq_ok_iff.1 hhead with
    | group _ hnone => cases hcommand.symm.trans hnone

theorem verdict_calling (h : Reads registry object (.check c))
    (hbinds : registry.Binds command arguments t) (target : Json) (explain : Bool) :
    verdict registry (object.calling command arguments) target explain =
      .ok (t.passes (c.selector.locate target)) := by
  obtain ⟨d, hreads, hselector, htest⟩ := exists_reads_calling h hbinds
  rw [verdict, ofDocument, ofJson_of_reads hreads, ← hselector, ← htest]
  rfl

end Calling

section Related

variable {registry : Registry} {name : Builtin → String}
  (hname : ∀ b ∈ [Builtin.equals, .notEquals, .compare, .oneOf, .range],
    registry.find? (name b) = some (.builtin b))
  {object : Json} {c : Check}

include hname

theorem verdict_calling_builtin (h : Reads registry object (.check c)) {b : Builtin}
    (hb : b ∈ [Builtin.equals, .notEquals, .compare, .oneOf, .range]) {arguments : Json} {t : Test}
    (hbinds : b.Binds arguments t) (target : Json) (explain : Bool) :
    verdict registry (object.calling (name b) arguments) target explain =
      .ok (t.passes (c.selector.locate target)) :=
  verdict_calling h (.builtin (hname b hb) hbinds) target explain

theorem verdict_calling_compare (h : Reads registry object (.check c)) (comparison : Comparison)
    (v target : Json) (explain : Bool) :
    verdict registry (object.calling (name .compare) (Builtin.compareArguments comparison v)) target
      explain = .ok ((Test.compare comparison v).passes (c.selector.locate target)) :=
  verdict_calling_builtin hname h (by simp) (Builtin.binds_compareArguments comparison v) target
    explain

theorem valid_range_iff (h : Reads registry object (.check c)) {arguments : Json} {r : Rule}
    (hr : Reads registry (object.calling (name .range) arguments) r) (target : Json)
    (explain : Bool) :
    (r.evaluate target explain).valid = true ↔
      ∀ others ∈ Builtin.rangeArguments arguments,
        verdict registry (object.calling (name .compare) others) target explain = .ok true := by
  obtain ⟨t, ht⟩ := exists_binds_of_reads_calling h hr
  have hrange := ht.of_builtin (hname .range (by simp))
  have hvalid : (r.evaluate target explain).valid = t.passes (c.selector.locate target) := by
    have hverdict := verdict_calling_builtin hname h (by simp) hrange target explain
    rw [verdict, ofDocument, ofJson_of_reads hr] at hverdict
    exact Except.ok.inj hverdict
  obtain ⟨least, most, exclusive, rfl, hbound, harguments⟩ :=
    Builtin.exists_rangeArguments_eq hrange
  rw [hvalid, Test.passes_range_iff hbound, harguments, List.forall_mem_map]
  simp only [verdict_calling_compare hname h, Except.ok.injEq]

/-- Wherever a check stands, it says the same if it asks for equality by any of three commands, or
for a difference by either of two; and a range says what the comparisons with its bounds say
together. -/
theorem related_commands_agree (h : ofDocument registry object = .ok (.check c)) (target : Json)
    (explain : Bool) :
    (∀ v, ∃ answer,
      verdict registry (object.calling (name .equals) (Builtin.valueArguments v)) target explain =
        .ok answer ∧
      verdict registry (object.calling (name .compare) (Builtin.compareArguments .eq v)) target
        explain = .ok answer ∧
      verdict registry (object.calling (name .oneOf) (Builtin.valuesArguments [v])) target explain =
        .ok answer) ∧
    (∀ v, ∃ answer,
      verdict registry (object.calling (name .notEquals) (Builtin.valueArguments v)) target
        explain = .ok answer ∧
      verdict registry (object.calling (name .compare) (Builtin.compareArguments .neq v)) target
        explain = .ok answer) ∧
    ∀ arguments r, ofDocument registry (object.calling (name .range) arguments) = .ok r →
      ((r.evaluate target explain).valid = true ↔
        ∀ others ∈ Builtin.rangeArguments arguments,
          verdict registry (object.calling (name .compare) others) target explain = .ok true) := by
  have hreads : Reads registry object (.check c) := reads_of_ofJson h
  refine ⟨fun v => ?_, fun v => ?_, fun arguments r hr => ?_⟩
  · have hequals : Builtin.equals.Binds (Builtin.valueArguments v) (.equals v) :=
      .equals (.member rfl)
    have hone : Builtin.oneOf.Binds (Builtin.valuesArguments [v]) (.oneOf [v]) := .oneOf (.here rfl)
    rw [verdict_calling_builtin hname hreads (by simp) hequals,
      verdict_calling_builtin hname hreads (by simp) hone, verdict_calling_compare hname hreads]
    refine ⟨_, rfl, congrArg Except.ok ?_, congrArg Except.ok ?_⟩
    · exact Test.passes_congr (by simp) (by simp) fun _ => rfl
    · apply Test.passes_congr (by simp) (by simp)
      intro w
      simp [Test.passesValue]
  · have hunequal : Builtin.notEquals.Binds (Builtin.valueArguments v) (.notEquals v) :=
      .notEquals (.member rfl)
    rw [verdict_calling_builtin hname hreads (by simp) hunequal,
      verdict_calling_compare hname hreads]
    exact ⟨_, rfl, congrArg Except.ok (Test.passes_congr (by simp) (by simp) fun _ => rfl)⟩
  · exact valid_range_iff hname hreads (reads_of_ofJson hr) target explain

end Related

section Adult

def shortName : Builtin → String
  | .equals => "eq"
  | .notEquals => "neq"
  | .compare => "compare"
  | .oneOf => "one_of"
  | .range => "range"
  | _ => ""

theorem find?_shortName : ∀ b ∈ [Builtin.equals, .notEquals, .compare, .oneOf, .range],
    Registry.builtins.find? (shortName b) = some (.builtin b) := by
  simp only [List.forall_mem_cons]
  exact ⟨rfl, rfl, rfl, rfl, rfl, by simp⟩

def eighteen : Json := .object [("age", .ofInt 18)]

def eighteenAsDouble : Json := .number (.double (Double.ofInt 18))

def aboveEighteen : Json :=
  .object [("exclusive", .bool true), ("max", .null), ("min", .ofInt 18)]

theorem binds_aboveEighteen :
    Builtin.range.Binds aboveEighteen (.range (some (.integer 18)) none true) :=
  .range (.given rfl) (.null rfl) ⟨by simp, by simp⟩ (.given rfl)

/-- Eighteen is found to be 18.0 by all three commands, and not to be above an exclusive bound of
eighteen; that the other bound is null makes no difference. -/
theorem related_commands_agree_ageObject :
    ofDocument .builtins ageObject = .ok (.check ageCheck) ∧
      (∀ b ∈ [Builtin.equals, .notEquals, .compare, .oneOf, .range],
        Registry.builtins.find? (shortName b) = some (.builtin b)) ∧
      verdict .builtins (ageObject.calling "compare" (Builtin.compareArguments .eq
        eighteenAsDouble)) eighteen false = .ok true ∧
      verdict .builtins (ageObject.calling "one_of" (Builtin.valuesArguments
        [eighteenAsDouble])) eighteen false = .ok true ∧
      ∃ r, ofDocument .builtins (ageObject.calling "range" aboveEighteen) = .ok r ∧
        (r.evaluate eighteen false).valid = false := by
  have hread : ofDocument .builtins ageObject = .ok (.check ageCheck) :=
    ofJson_of_reads reads_ageObject
  obtain ⟨hequal, -, hrange⟩ := related_commands_agree find?_shortName hread eighteen false
  refine ⟨hread, find?_shortName, ?_⟩
  obtain ⟨answer, hanswer, hcompare, hone⟩ := hequal eighteenAsDouble
  have htrue : answer = true := by
    have hbinds : Builtin.equals.Binds (Builtin.valueArguments eighteenAsDouble)
        (.equals eighteenAsDouble) := .equals (.member rfl)
    have hequals := verdict_calling_builtin find?_shortName reads_ageObject (by simp) hbinds
      eighteen false
    have hsame := Except.ok.inj (hanswer.symm.trans hequals)
    rw [hsame]
    decide +kernel
  rw [htrue] at hcompare hone
  obtain ⟨d, hd, -⟩ := exists_reads_calling reads_ageObject
    (.builtin (find?_shortName .range (by simp)) binds_aboveEighteen)
  have hdocument : ofDocument .builtins (ageObject.calling "range" aboveEighteen) =
      .ok (.check d) := ofJson_of_reads hd
  refine ⟨hcompare, hone, .check d, hdocument, ?_⟩
  have hbound : verdict .builtins (ageObject.calling "compare" (Builtin.compareArguments .gt
      (.ofInt 18))) eighteen false = .ok false := by
    have hgt := verdict_calling_compare find?_shortName reads_ageObject .gt (.ofInt 18) eighteen
      false
    exact hgt.trans (congrArg Except.ok (by decide +kernel))
  rw [Bool.eq_false_iff]
  intro hvalid
  have hmember : Builtin.compareArguments .gt (.ofInt 18) ∈ Builtin.rangeArguments aboveEighteen :=
    List.mem_singleton_self _
  cases hbound.symm.trans ((hrange aboveEighteen _ hdocument).1 hvalid _ hmember)

end Adult

end Rule

end JsonRules
