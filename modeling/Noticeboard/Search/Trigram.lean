import Noticeboard.Text.Alphanumeric
import Noticeboard.Text.LowerCase

/-!
# Trigrams

A text is lower-cased character by character and cut into words at everything that is not
alphanumeric.  Each word gets two blanks in front and one behind, and its windows of three
characters are its trigrams.  Two texts are as similar as the trigrams they share among all the
trigrams they have.
-/

namespace Noticeboard

structure Trigram where
  first : Char
  second : Char
  third : Char
  deriving DecidableEq

namespace Trigram

/-- Orders trigrams by their characters from left to right. -/
def key (g : Trigram) : Nat :=
  (g.first.toNat * 2097152 + g.second.toNat) * 2097152 + g.third.toNat

end Trigram

/-- A set of trigrams, listed by ascending key. -/
structure TrigramSet where
  members : List Trigram
  ascending : members.Pairwise fun a b => a.key < b.key

namespace TrigramSet

def place (g : Trigram) : List Trigram → List Trigram
  | [] => [g]
  | h :: rest =>
    if g.key < h.key then g :: h :: rest
    else if h.key < g.key then h :: place g rest
    else h :: rest

theorem mem_of_mem_place {g x : Trigram} {l : List Trigram} (h : x ∈ place g l) :
    x = g ∨ x ∈ l := by
  induction l with
  | nil => simpa [place] using h
  | cons head rest ih =>
    unfold place at h
    split at h
    · simpa using h
    · split at h
      · rcases List.mem_cons.1 h with rfl | hx
        · simp
        · rcases ih hx with rfl | hx
          · simp
          · simp [hx]
      · exact .inr h

theorem place_ascending (g : Trigram) {l : List Trigram}
    (h : l.Pairwise fun a b => a.key < b.key) :
    (place g l).Pairwise fun a b => a.key < b.key := by
  induction l with
  | nil => simp [place]
  | cons head rest ih =>
    have hrest := (List.pairwise_cons.1 h).2
    have hhead := (List.pairwise_cons.1 h).1
    unfold place
    split
    · rename_i hlt
      refine List.pairwise_cons.2 ⟨fun x hx => ?_, h⟩
      rcases List.mem_cons.1 hx with rfl | hx
      · exact hlt
      · exact Nat.lt_trans hlt (hhead x hx)
    · split
      · rename_i hgt
        refine List.pairwise_cons.2 ⟨fun x hx => ?_, ih hrest⟩
        rcases mem_of_mem_place hx with rfl | hx
        · exact hgt
        · exact hhead x hx
      · exact h

def empty : TrigramSet :=
  ⟨[], List.Pairwise.nil⟩

def insert (set : TrigramSet) (g : Trigram) : TrigramSet :=
  ⟨place g set.members, place_ascending g set.ascending⟩

def ofList (grams : List Trigram) : TrigramSet :=
  grams.foldl insert empty

/-- Cuts a text at every character that is not alphanumeric; pieces may be empty. -/
def pieces : List Char → List (List Char)
  | [] => [[]]
  | c :: rest =>
    if Text.isAlphanumeric c then
      match pieces rest with
      | [] => [[c]]
      | piece :: more => (c :: piece) :: more
    else [] :: pieces rest

def words (text : List Char) : List (List Char) :=
  (pieces text).filter fun piece => !piece.isEmpty

/-- The runs of three characters in a row. -/
def windows : List Char → List Trigram
  | a :: b :: c :: rest => ⟨a, b, c⟩ :: windows (b :: c :: rest)
  | _ => []

def ofWord (word : List Char) : List Trigram :=
  windows (' ' :: ' ' :: word ++ [' '])

/-- The trigrams of a text. -/
def ofText (text : String) : TrigramSet :=
  ofList ((words (text.toList.flatMap Text.lowerChar)).flatMap ofWord)

def size (set : TrigramSet) : Nat :=
  set.members.length

def isEmpty (set : TrigramSet) : Bool :=
  set.members.isEmpty

def contains (set : TrigramSet) (g : Trigram) : Bool :=
  set.members.contains g

/-- How many trigrams two sets have in common; the smaller set is looked up in the larger. -/
def shared (a b : TrigramSet) : Nat :=
  if a.size ≤ b.size then a.members.countP b.contains else b.members.countP a.contains

/-- How many trigrams two sets have together. -/
def joint (a b : TrigramSet) : Nat :=
  a.size + b.size - a.shared b

/-- The shared part of all trigrams, between zero and one; a set without trigrams is similar to
none. -/
def similarity (a b : TrigramSet) : Float :=
  if a.isEmpty || b.isEmpty then 0.0
  else Float.ofNat (a.shared b) / Float.ofNat (a.joint b)

end TrigramSet

/-- The similarity of two texts. -/
def similarity (a b : String) : Float :=
  (TrigramSet.ofText a).similarity (TrigramSet.ofText b)

end Noticeboard
