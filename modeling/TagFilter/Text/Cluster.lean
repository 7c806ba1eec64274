import TagFilter.Text.Break
import TagFilter.Text.Width

/-!
# Clusters

A cluster is a run of characters that shows as one.  `Cluster.start` begins one with its first
character and `Cluster.push?` adds the next character, if it belongs to the cluster.  Whether it
does hangs on the characters so far by no more than a `ClusterState`.
-/

namespace TagFilter.Text

/-- What a cluster ends in, as far as it matters to the next character. -/
inductive ClusterState where
  | plain
  | carriageReturn
  | control
  | prepend
  | leading
  | vowel
  | trailing
  | pictograph
  | tiedPictograph
  | flagHalf
  | flag
  deriving DecidableEq, Repr

namespace ClusterState

/-- The state after a character, whatever stands before it. -/
def after : BreakClass → ClusterState
  | .other | .extend | .joiner | .spacing => plain
  | .carriageReturn => carriageReturn
  | .lineFeed | .control => control
  | .prepend => prepend
  | .flagHalf => flagHalf
  | .leading => leading
  | .vowel | .openSyllable => vowel
  | .trailing | .closedSyllable => trailing
  | .pictograph => pictograph

/-- The state after one more character. -/
def next (s : ClusterState) (k : BreakClass) : ClusterState :=
  match s, k with
  | pictograph, .extend => pictograph
  | pictograph, .joiner => tiedPictograph
  | flagHalf, .flagHalf => flag
  | _, k => after k

/-- Whether a character belongs to what stands before it. -/
def joins (s : ClusterState) (k : BreakClass) : Bool :=
  match s, k with
  | carriageReturn, .lineFeed => true
  | carriageReturn, _ | control, _ => false
  | _, .carriageReturn | _, .lineFeed | _, .control => false
  | _, .extend | _, .joiner | _, .spacing => true
  | prepend, _ => true
  | leading, .leading | leading, .vowel | leading, .openSyllable | leading, .closedSyllable => true
  | vowel, .vowel | vowel, .trailing => true
  | trailing, .trailing => true
  | tiedPictograph, .pictograph => true
  | flagHalf, .flagHalf => true
  | _, _ => false

end ClusterState

/-- The columns that a character takes within a cluster: flags and emoji are wide, and two dashes
are wider still. -/
def clusterColumns (c : Char) (k : BreakClass) : Nat :=
  match k with
  | .carriageReturn | .lineFeed | .control | .extend | .joiner => 0
  | .flagHalf => 2
  | .pictograph => if isEmoji c then 2 else 1
  | _ =>
    if c.toNat == 0x2E3A then 3
    else if c.toNat == 0x2E3B then 4
    else if isWide c then 2
    else 1

/-- A run of characters that shows as one: the class of the first, what the run ends in, and the
columns it takes. -/
structure Cluster where
  first : BreakClass
  state : ClusterState
  width : Nat
  deriving DecidableEq, Repr

namespace Cluster

/-- The cluster of one character. -/
def start (c : Char) : Cluster :=
  let k := breakClass c
  ⟨k, .after k, clusterColumns c k⟩

/-- The columns after one more character.  Flags and syllables are as wide as their first character;
a pictograph is narrow or wide if a selector says so. -/
def widen (cluster : Cluster) (c : Char) (k : BreakClass) : Nat :=
  match cluster.first with
  | .pictograph =>
    if c.toNat == 0xFE0E then 1 else if c.toNat == 0xFE0F then 2 else cluster.width
  | .flagHalf | .leading => cluster.width
  | _ => cluster.width + clusterColumns c k

/-- The cluster with one more character, if that belongs to it. -/
def push? (cluster : Cluster) (c : Char) : Option Cluster :=
  let k := breakClass c
  if cluster.state.joins k then
    some ⟨cluster.first, cluster.state.next k, cluster.widen c k⟩
  else none

end Cluster

end TagFilter.Text
