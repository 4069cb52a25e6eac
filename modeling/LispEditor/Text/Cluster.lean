import LispEditor.Character.ClusterClass

set_option autoImplicit false
set_option relaxedAutoImplicit false

/-!
# Clusters of characters

A cluster is what a reader takes for one character: a base with its marks, a syllable, a conjunct of
consonants, a pair of letters that names a region, or pictographs that are joined.

Main statement: the clusters of a text, one after the other, are the text.
-/

namespace LispEditor

/-- How far a conjunct of consonants has come. -/
inductive Conjunct where
  | absent
  | consonant
  | linked
  deriving DecidableEq, Repr

/-- How far a sequence of joined pictographs has come. -/
inductive Picture where
  | absent
  | pictograph
  | joined
  deriving DecidableEq, Repr

/-- What the characters of a cluster so far mean for the next one. -/
structure ClusterState where
  last : ClusterClass
  conjunct : Conjunct
  picture : Picture
  /-- Whether the last character waits for another one to name a region. -/
  unpaired : Bool
  deriving DecidableEq, Repr

namespace ClusterState

def start (c : Char) : ClusterState where
  last := clusterClass c
  conjunct := if isConjunctConsonant c then .consonant else .absent
  picture := if isPictograph c then .pictograph else .absent
  unpaired := clusterClass c == .regional

def joins (s : ClusterState) (c : Char) : Bool :=
  match s.last, clusterClass c with
  | .carriageReturn, .lineFeed => true
  | .carriageReturn, _ => false
  | .lineFeed, _ => false
  | .control, _ => false
  | _, .carriageReturn => false
  | _, .lineFeed => false
  | _, .control => false
  | _, .extend => true
  | _, .joiner => true
  | _, .spacing => true
  | .prepend, _ => true
  | .lead, .lead => true
  | .lead, .vowel => true
  | .lead, .openSyllable => true
  | .lead, .closedSyllable => true
  | .vowel, .vowel => true
  | .vowel, .tail => true
  | .openSyllable, .vowel => true
  | .openSyllable, .tail => true
  | .tail, .tail => true
  | .closedSyllable, .tail => true
  | .regional, .regional => s.unpaired
  | _, _ =>
      (s.conjunct == .linked && isConjunctConsonant c) || (s.picture == .joined && isPictograph c)

def passesConjunct (c : Char) : Bool :=
  c != '\u200c' && (clusterClass c == .extend || clusterClass c == .joiner)

def next (s : ClusterState) (c : Char) : ClusterState where
  last := clusterClass c
  conjunct :=
    if isConjunctConsonant c then .consonant
    else if s.conjunct == .absent then .absent
    else if isConjunctLinker c then .linked
    else if passesConjunct c then s.conjunct
    else .absent
  picture :=
    if isPictograph c then .pictograph
    else
      match s.picture, clusterClass c with
      | .pictograph, .extend => .pictograph
      | .pictograph, .joiner => .joined
      | _, _ => .absent
  unpaired := clusterClass c == .regional && !s.unpaired

end ClusterState

/-- The rest of a cluster in the given state, and the clusters behind it. -/
def clustersFrom (s : ClusterState) : List Char → List Char × List (List Char)
  | [] => ([], [])
  | c :: cs =>
      if s.joins c then
        let (rest, later) := clustersFrom (s.next c) cs
        (c :: rest, later)
      else
        let (rest, later) := clustersFrom (.start c) cs
        ([], (c :: rest) :: later)

def clusters : List Char → List (List Char)
  | [] => []
  | c :: cs =>
      let (rest, later) := clustersFrom (.start c) cs
      (c :: rest) :: later

end LispEditor
