import WorkflowEngine.Condition
import WorkflowEngine.Proofs.Decimal.Spelled

/-!
# What names stand for

A name stands for what the input gives for it, or else for what the variables give, or else for nothing.  A source
gives the entry that is spelled like the name, or the value at the end of its path, part by part through entries of
dictionaries and places in sequences.

Looking a name up fails in one case: the path comes to a sequence with a part that consists of digits but cannot be
read as a number, since one of the digits has no decimal value or there are too many of them.
-/

namespace WorkflowEngine

open Text.Unicode (isDigit)

/-! ## Parts of paths that are places -/

namespace Condition

/-- The place in a sequence that a part of a path spells in decimal digits of any scripts. -/
def placeOf? (part : String) : Option Nat :=
  Decimal.valueOf? part.toList

/-- A part of digits that is not read: one digit has no decimal value, or they are too many. -/
def IsMisread (part : String) : Prop :=
  isIndex part = true ∧ (placeOf? part = none ∨ Decimal.digitLimit < part.length)

variable {part : String}

theorem isIndex_iff : isIndex part = true ↔ part ≠ "" ∧ ∀ c ∈ part.toList, isDigit c = true := by
  rw [isIndex, Bool.and_eq_true, bne_iff_ne, List.all_eq_true]

/-- Only digits spell a place. -/
theorem isIndex_of_placeOf? {place : Nat} (spelled : placeOf? part = some place) : isIndex part = true := by
  rw [isIndex_iff]
  constructor
  · rintro rfl
    cases spelled
  · exact Decimal.isDigit_of_valueOf? spelled

/-- A number in digits is read by its value unless it is misread, which is a fault in a value. -/
theorem indexOf_of_isIndex (index : isIndex part = true) :
    (IsMisread part → ∃ f, indexOf part = .error f ∧ f.cls = .value) ∧
      (¬ IsMisread part → ∃ place, placeOf? part = some place ∧ indexOf part = .ok place) := by
  have digits := (isIndex_iff.mp index).2
  have read : Decimal.readInt? 10 part = (placeOf? part).map Int.ofNat := Decimal.readInt?_of_digits digits
  have counted := Decimal.overlongDigits?_of_digits digits
  rw [indexOf, Number.spelledInt, read]
  cases spelled : placeOf? part with
  | none =>
      constructor
      · intro _
        exact ⟨_, rfl, rfl⟩
      · intro sound
        exact absurd ⟨index, .inl spelled⟩ sound
  | some place =>
      rw [Option.map_some, counted]
      dsimp only
      by_cases long : Decimal.digitLimit < part.length
      · rw [if_pos long]
        constructor
        · intro _
          exact ⟨_, rfl, rfl⟩
        · intro sound
          exact absurd ⟨index, .inr long⟩ sound
      · rw [if_neg long]
        constructor
        · rintro ⟨-, odd | overlong⟩
          · rw [spelled] at odd
            cases odd
          · exact absurd overlong long
        · intro _
          exact ⟨place, rfl, rfl⟩

variable {α : Type} (items : List α)

/-- The item at the place that a part spells, unless the part is misread. -/
theorem itemAt_spec (part : String) :
    (IsMisread part → ∃ f, itemAt items part = .error f ∧ f.cls = .value) ∧
      (¬ IsMisread part → itemAt items part = .ok ((placeOf? part).bind fun place => items[place]?)) := by
  by_cases index : isIndex part = true
  · obtain ⟨misread, read⟩ := indexOf_of_isIndex index
    rw [itemAt, if_pos index]
    constructor
    · intro odd
      obtain ⟨f, failed, value⟩ := misread odd
      rw [failed]
      exact ⟨f, rfl, value⟩
    · intro sound
      obtain ⟨place, spelled, found⟩ := read sound
      rw [found, spelled]
      rfl
  · constructor
    · intro odd
      exact absurd odd.1 index
    · intro _
      cases spelled : placeOf? part with
      | none => rw [itemAt, if_neg index, Option.bind_none]
      | some place => exact absurd (isIndex_of_placeOf? spelled) index

end Condition

/-! ## What a path leads to -/

namespace Opening

variable {α : Type} (o : Opening α)

/-- Where a part of a path leads: to the entry of a dictionary, or to the item at the place that the part spells. -/
def next? (value : α) (part : String) : Option α :=
  (o.entry? value part).or
    ((o.items? value).bind fun items => (Condition.placeOf? part).bind fun place => items[place]?)

/-- The value at the end of a path. -/
def end? (value : α) : List String → Option α
  | [] => some value
  | part :: rest =>
    match o.next? value part with
    | some next => end? next rest
    | none => none

/-- What a source gives for a name: the entry spelled just like it, or else the value at the end of its path. -/
def given? (source : α) (name : String) : Option α :=
  (o.entry? source name).or (o.end? source (Condition.pathOf name))

/-- What a name stands for: what the input gives, or else what the variables give, or else nothing. -/
def meaning (nothing : α) (name : String) (input vars : α) : α :=
  ((o.given? input name).or (o.given? vars name)).getD nothing

/-- A path comes to a sequence with a part that is misread. -/
inductive Trips : α → List String → Prop where
  | here {value : α} {part : String} {rest : List String} {items : List α} (missing : o.entry? value part = none)
      (sequence : o.items? value = some items) (misread : Condition.IsMisread part) : Trips value (part :: rest)
  | further {value next : α} {part : String} {rest : List String} (led : o.next? value part = some next)
      (trips : Trips next rest) : Trips value (part :: rest)

/-- A name is looked up along a path that trips. -/
def TripsIn (source : α) (name : String) : Prop :=
  o.entry? source name = none ∧ o.Trips source (Condition.pathOf name)

/-- A name is looked up along a path that trips, in the input, or in the variables if the input gives nothing. -/
def TripsOver (name : String) (input vars : α) : Prop :=
  o.TripsIn input name ∨ o.given? input name = none ∧ o.TripsIn vars name

variable {o} {value next : α} {part : String} {rest : List String}

/-- A step of a path fails at a misread part, and goes where the part leads otherwise. -/
theorem step_spec (o : Opening α) (value : α) (part : String) :
    ((∃ items, o.entry? value part = none ∧ o.items? value = some items ∧ Condition.IsMisread part) →
        ∃ f, o.step value part = .error f ∧ f.cls = .value) ∧
      ((∀ items, o.entry? value part = none → o.items? value = some items → ¬ Condition.IsMisread part) →
        o.step value part = .ok (o.next? value part)) := by
  rw [step, next?]
  cases found : o.entry? value part with
  | some next =>
      constructor
      · rintro ⟨_, ⟨⟩, -⟩
      · intro _
        rfl
  | none =>
      cases sequence : o.items? value with
      | none =>
          constructor
          · rintro ⟨_, -, ⟨⟩, -⟩
          · intro _
            rfl
      | some items =>
          obtain ⟨misread, read⟩ := Condition.itemAt_spec items part
          constructor
          · rintro ⟨_, -, -, odd⟩
            exact misread odd
          · intro sound
            exact read (sound items rfl rfl)

/-- A walk along a path fails if the path trips, and ends where the path leads otherwise. -/
theorem walk_spec (o : Opening α) (value : α) (path : List String) :
    (o.Trips value path → ∃ f, o.walk value path = .error f ∧ f.cls = .value) ∧
      (¬ o.Trips value path → o.walk value path = .ok (o.end? value path)) := by
  induction path generalizing value with
  | nil =>
      constructor
      · rintro ⟨⟩
      · intro _
        rfl
  | cons part rest ih =>
      obtain ⟨fails, goes⟩ := o.step_spec value part
      by_cases odd : ∃ items, o.entry? value part = none ∧ o.items? value = some items ∧ Condition.IsMisread part
      · obtain ⟨f, failed, cls⟩ := fails odd
        obtain ⟨items, missing, sequence, misread⟩ := odd
        constructor
        · intro _
          rw [walk, failed]
          exact ⟨f, rfl, cls⟩
        · intro sound
          exact absurd (.here missing sequence misread) sound
      · have even : ∀ items, o.entry? value part = none → o.items? value = some items → ¬ Condition.IsMisread part :=
          fun items missing sequence misread => odd ⟨items, missing, sequence, misread⟩
        rw [walk, goes even, end?]
        cases led : o.next? value part with
        | none =>
            constructor
            · rintro (⟨missing, sequence, misread⟩ | ⟨led', -⟩)
              · exact absurd misread (even _ missing sequence)
              · rw [led] at led'
                cases led'
            · intro _
              rfl
        | some next =>
            obtain ⟨tripping, passing⟩ := ih next
            constructor
            · rintro (⟨missing, sequence, misread⟩ | ⟨led', trips⟩)
              · exact absurd misread (even _ missing sequence)
              · rw [led] at led'
                cases led'
                exact tripping trips
            · intro sound
              exact passing fun trips => sound (.further led trips)

theorem findIn_spec (o : Opening α) (source : α) (name : String) :
    (o.TripsIn source name → ∃ f, o.findIn source name = .error f ∧ f.cls = .value) ∧
      (¬ o.TripsIn source name → o.findIn source name = .ok (o.given? source name)) := by
  rw [findIn, given?]
  cases found : o.entry? source name with
  | some value =>
      constructor
      · rintro ⟨missing, -⟩
        rw [found] at missing
        cases missing
      · intro _
        rfl
  | none =>
      obtain ⟨fails, goes⟩ := o.walk_spec source (Condition.pathOf name)
      constructor
      · intro trips
        exact fails trips.2
      · intro sound
        exact goes fun trips => sound ⟨found, trips⟩

/-- The outcome of looking a name up: a fault in a value where the path trips, and what the name stands for
otherwise. -/
structure IsOutcome (o : Opening α) (nothing : α) (name : String) (input vars : α) (outcome : Except Fault α) :
    Prop where
  fails : o.TripsOver name input vars → ∃ f, outcome = .error f ∧ f.cls = .value
  finds : ¬ o.TripsOver name input vars → outcome = .ok (o.meaning nothing name input vars)

theorem isOutcome_find (o : Opening α) (nothing : α) (name : String) (input vars : α) :
    o.IsOutcome nothing name input vars ((o.find name input vars).map fun found => found.getD nothing) := by
  obtain ⟨fails, goes⟩ := o.findIn_spec input name
  obtain ⟨fails', goes'⟩ := o.findIn_spec vars name
  rw [find]
  by_cases trips : o.TripsIn input name
  · obtain ⟨f, failed, cls⟩ := fails trips
    rw [failed]
    constructor
    · intro _
      exact ⟨f, rfl, cls⟩
    · intro sound
      exact absurd (.inl trips) sound
  · rw [goes trips]
    cases given : o.given? input name with
    | some value =>
        constructor
        · rintro (odd | ⟨missing, -⟩)
          · exact absurd odd trips
          · rw [given] at missing
            cases missing
        · intro _
          rw [meaning, given]
          rfl
    | none =>
        constructor
        · rintro (odd | ⟨-, odd⟩)
          · exact absurd odd trips
          · obtain ⟨f, failed, cls⟩ := fails' odd
            dsimp only
            rw [failed]
            exact ⟨f, rfl, cls⟩
        · intro sound
          dsimp only
          rw [goes' fun odd => sound (.inr ⟨given, odd⟩), meaning, given]
          rfl

end Opening

namespace Condition

/-- A name stands for what the input gives for it, or else for what the variables give, or else for nothing, unless it
is looked up along a path that trips; this holds of data at rest as of values on a heap. -/
theorem isOutcome_resolve (name : String) :
    (∀ input vars : Data, Data.opening.IsOutcome .null name input vars (resolve name input vars)) ∧
      ∀ (h : Heap) (input vars : Value), h.opening.IsOutcome .null name input vars (resolveOn h name input vars) := by
  constructor
  · intro input vars
    exact Data.opening.isOutcome_find .null name input vars
  · intro h input vars
    exact h.opening.isOutcome_find .null name input vars

/-- A raised two is a digit, but spells no place: looking up the name of an item that is not there fails. -/
theorem resolve_raised_two :
    resolve "²" (.list [.int 5]) (.dict []) = .error (Number.notAnInt 10 (Data.str "²").source) ∧
      Data.opening.meaning .null "²" (.list [.int 5]) (.dict []) = .null := by
  have path : pathOf "²" = ["²"] := by decide
  have digit : isIndex "²" = true := by decide
  have unread : Decimal.readInt? 10 "²" = none := by decide
  have unspelled : placeOf? "²" = none := by decide
  constructor
  · have failed : itemAt [Data.int 5] "²" = .error (Number.notAnInt 10 (Data.str "²").source) := by
      rw [itemAt, if_pos digit, indexOf, Number.spelledInt, unread]
      rfl
    have missing : Data.opening.entry? (.list [.int 5]) "²" = none := rfl
    have sequence : Data.opening.items? (.list [.int 5]) = some [.int 5] := rfl
    rw [resolve, Opening.find, Opening.findIn, missing, path]
    dsimp only
    rw [Opening.walk, Opening.step, missing, sequence]
    dsimp only
    rw [failed]
    rfl
  · have nowhere (source : Data) (missing : Data.opening.entry? source "²" = none) :
        Data.opening.given? source "²" = none := by
      rw [Opening.given?, missing, path, Opening.end?, Opening.next?, missing, unspelled]
      cases Data.opening.items? source with
      | none => rfl
      | some items => rfl
    rw [Opening.meaning, nowhere _ rfl, nowhere _ rfl]
    rfl

end Condition

end WorkflowEngine
