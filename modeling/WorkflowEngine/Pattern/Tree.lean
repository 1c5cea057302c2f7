/-!
# Patterns as trees

A pattern is a sequence of items.  Each item says what part of a text it fits: a character, a place, an
earlier part, or other sequences.  Every sequence has a width: the least and the greatest number of
characters that it can fit.
-/

namespace WorkflowEngine.Pattern

/-- The options under which a part of a pattern is read and fitted. -/
structure Options where
  ignoreCase : Bool
  multiline : Bool
  dotAll : Bool
  verbose : Bool
  ascii : Bool
  unicode : Bool
  locale : Bool
  template : Bool
deriving Repr, DecidableEq, Inhabited

namespace Options

/-- No option is set. -/
def none : Options := ⟨false, false, false, false, false, false, false, false⟩

/-- The options of either side. -/
def union (a b : Options) : Options :=
  ⟨a.ignoreCase || b.ignoreCase, a.multiline || b.multiline, a.dotAll || b.dotAll, a.verbose || b.verbose,
    a.ascii || b.ascii, a.unicode || b.unicode, a.locale || b.locale, a.template || b.template⟩

/-- The options of the first that the second does not set. -/
def without (a b : Options) : Options :=
  ⟨a.ignoreCase && !b.ignoreCase, a.multiline && !b.multiline, a.dotAll && !b.dotAll,
    a.verbose && !b.verbose, a.ascii && !b.ascii, a.unicode && !b.unicode, a.locale && !b.locale,
    a.template && !b.template⟩

/-- Some option is set on both sides. -/
def meets (a b : Options) : Bool :=
  a.ignoreCase && b.ignoreCase || a.multiline && b.multiline || a.dotAll && b.dotAll ||
    a.verbose && b.verbose || a.ascii && b.ascii || a.unicode && b.unicode || a.locale && b.locale ||
    a.template && b.template

/-- The options that choose a set of characters. -/
def typed (a : Options) : Bool := a.ascii || a.unicode || a.locale

/-- The options inside a group that adds and removes some. -/
def change (a added removed : Options) : Options :=
  let base := if added.typed then { a with ascii := false, unicode := false, locale := false } else a
  (base.union added).without removed

end Options

/-- The classes of characters. -/
inductive Class where
  | digit
  | space
  | word
deriving Repr, DecidableEq, Inhabited

/-- A member of a set of characters. -/
inductive Member where
  | single (code : Nat)
  | range (low high : Nat)
  | ofClass (c : Class) (negated : Bool)
deriving Repr, DecidableEq, Inhabited

/-- The places that a pattern can ask for. -/
inductive Anchor where
  | lineStart
  | lineEnd
  | textStart
  | textEnd
  | boundary
  | noBoundary
deriving Repr, DecidableEq, Inhabited

/-- How a repetition chooses its length. -/
inductive Greed where
  | greedy
  | lazy
  | possessive
deriving Repr, DecidableEq, Inhabited

/-- A part of a pattern. -/
inductive Item where
  | single (code : Nat)
  | notSingle (code : Nat)
  | any
  | set (negated : Bool) (members : List Member)
  | anchor (a : Anchor)
  | reference (group : Nat)
  | group (number : Option Nat) (added removed : Options) (body : List Item)
  | atomic (body : List Item)
  | branch (alternatives : List (List Item))
  | repeated (greed : Greed) (least : Nat) (most : Option Nat) (body : List Item)
  | look (behind negated : Bool) (body : List Item)
  | choice (group : Nat) (positive : List Item) (negative : Option (List Item))
  | fail
deriving Repr, Inhabited

namespace Item

/-- The item is a repetition. -/
def isRepeated : Item → Bool
  | .repeated _ _ _ _ => true
  | _ => false

/-- The item is a place. -/
def isAnchor : Item → Bool
  | .anchor _ => true
  | _ => false

end Item

/-- A count of repetitions from here on has no bound. -/
def repeatLimit : Nat := 4294967295

/-- The least and the greatest number of characters. -/
structure Width where
  least : Nat
  most : Nat
deriving Repr, DecidableEq, Inhabited

namespace Width

/-- The width of nothing. -/
def zero : Width := ⟨0, 0⟩

/-- The width of one part behind another. -/
def add (a b : Width) : Width := ⟨a.least + b.least, a.most + b.most⟩

/-- The width of one part or another. -/
def join (a b : Width) : Width := ⟨min a.least b.least, max a.most b.most⟩

/-- A width within the bounds of counting. -/
def clip (w : Width) : Width := ⟨min w.least (repeatLimit - 1), min w.most repeatLimit⟩

end Width

mutual

/-- The width of an item, given those of the groups so far. -/
def widthOf (groups : List (Option Width)) (item : Item) : Width :=
  match item with
  | .single _ => ⟨1, 1⟩
  | .notSingle _ => ⟨1, 1⟩
  | .any => ⟨1, 1⟩
  | .set _ _ => ⟨1, 1⟩
  | .anchor _ => .zero
  | .reference group => ((groups[group]?).getD none).getD .zero
  | .group _ _ _ body => (widthOfAll groups .zero body).clip
  | .atomic body => (widthOfAll groups .zero body).clip
  | .branch alternatives =>
    match widthOfEach groups alternatives with
    | none => .zero
    | some w => w
  | .repeated _ least most body =>
    let w := (widthOfAll groups .zero body).clip
    ⟨w.least * least, w.most * most.getD repeatLimit⟩
  | .look _ _ _ => .zero
  | .choice _ positive negative =>
    let w := (widthOfAll groups .zero positive).clip
    match negative with
    | none => ⟨0, w.most⟩
    | some items => w.join (widthOfAll groups .zero items).clip
  | .fail => .zero

/-- The width of a sequence, added to a width. -/
def widthOfAll (groups : List (Option Width)) (done : Width) : List Item → Width
  | [] => done
  | item :: rest => widthOfAll groups (done.add (widthOf groups item)) rest

/-- The width of some sequence of several. -/
def widthOfEach (groups : List (Option Width)) : List (List Item) → Option Width
  | [] => none
  | items :: rest =>
    let w := (widthOfAll groups .zero items).clip
    match widthOfEach groups rest with
    | none => some w
    | some other => some (w.join other)

end

/-- The width of a whole sequence. -/
def width (groups : List (Option Width)) (items : List Item) : Width :=
  (widthOfAll groups .zero items).clip

end WorkflowEngine.Pattern
