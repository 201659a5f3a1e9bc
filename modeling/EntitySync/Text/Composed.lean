import EntitySync.Text.Decomposition
import EntitySync.Text.Mark

/-!
# Composed texts

Texts that mean the same have the same composed form. A text is decomposed, its marks are put into
the order of their classes, and what can be composed is composed again.
-/

namespace EntitySync

namespace Text

/-! ### Decomposing -/

/-- Every code point in its parts. Three rounds reach the last parts of every code point. -/
def decomposed (codes : List Nat) : List Nat :=
  ((codes.flatMap parts).flatMap parts).flatMap parts

/-- Put a code point before others whose marks are in order, behind marks of lower classes. -/
def insertMark (n : Nat) : List Nat → List Nat
  | [] => [n]
  | m :: rest =>
    if combiningClass m ≠ 0 && combiningClass m < combiningClass n then m :: insertMark n rest
    else n :: m :: rest

/-- The code points with their marks in the order of the classes. -/
def ordered : List Nat → List Nat
  | [] => []
  | n :: rest => insertMark n (ordered rest)

/-! ### Composing -/

/-- A base character, and the marks behind it that are not part of it, the last one first. -/
structure Cluster where
  base : Nat
  marks : List Nat := []

namespace Cluster

/-- Nothing that has stayed behind the base keeps a code point away from it. -/
def reaches (c : Cluster) (n : Nat) : Bool :=
  match c.marks with
  | [] => true
  | m :: _ => combiningClass m < combiningClass n

/-- The code points of a cluster. -/
def codes (c : Cluster) : List Nat := c.base :: c.marks.reverse

/-- The cluster followed by code points, whose marks are in order. -/
def compose (c : Cluster) : List Nat → List Nat
  | [] => c.codes
  | n :: rest =>
    match if c.reaches n then composite? c.base n else none with
    | some base => { c with base }.compose rest
    | none =>
      if combiningClass n = 0 then c.codes ++ compose { base := n } rest
      else { c with marks := n :: c.marks }.compose rest

end Cluster

/-- The composed form of code points. Marks in front have no base. -/
def composed (codes : List Nat) : List Nat :=
  let codes := ordered (decomposed codes)
  let front := codes.takeWhile fun n => combiningClass n ≠ 0
  match codes.drop front.length with
  | [] => front
  | base :: rest => front ++ Cluster.compose { base } rest

end Text

end EntitySync
