import ModalTutor.Unicode.ClusterBreak

/-!
# Grapheme clusters

A text is cut into extended grapheme clusters by one walk from left to right.
The walk remembers of the current cluster only what a later boundary can
depend on, and it starts afresh at every boundary.  `clusters_flatten` says
that cutting loses nothing, and `ne_nil_of_mem_clusters` that no cluster is
empty.
-/

namespace ModalTutor

open Unicode (BreakClass breakClass)

/-- A text is the list of its characters. -/
abbrev Text := List Char

/-- A cluster is what a reader takes for one character. -/
abbrev Cluster := List Char

/-- How far the current cluster has come towards a conjunct. -/
inductive Conjunct where
  | absent
  /-- A consonant and its marks. -/
  | consonant
  /-- A consonant and its marks, a linker among them. -/
  | linked
  deriving DecidableEq, Repr

/-- What a boundary after the characters read so far can depend on. -/
structure ClusterState where
  last : BreakClass
  /-- The text read ends in a pictograph and its marks, or in these and one
  joiner. -/
  pictograph : Bool
  conjunct : Conjunct
  /-- The text read ends in an odd number of regional indicators. -/
  oddRegional : Bool
  deriving DecidableEq, Repr

namespace ClusterState

/-- The state after the first character of a cluster. -/
def start (first : BreakClass) : ClusterState where
  last := first
  pictograph := first = .pictograph
  conjunct := if first = .consonant then .consonant else .absent
  oddRegional := first = .regional

/-- The next character belongs to the current cluster. -/
def joins (state : ClusterState) (next : BreakClass) : Bool :=
  match state.last, next with
  | .carriageReturn, .lineFeed => true
  | .carriageReturn, _ | .lineFeed, _ | .control, _ => false
  | _, .carriageReturn | _, .lineFeed | _, .control => false
  | .leadingJamo, .leadingJamo | .leadingJamo, .vowelJamo
  | .leadingJamo, .openSyllable | .leadingJamo, .closedSyllable => true
  | .openSyllable, .vowelJamo | .openSyllable, .trailingJamo
  | .vowelJamo, .vowelJamo | .vowelJamo, .trailingJamo => true
  | .closedSyllable, .trailingJamo | .trailingJamo, .trailingJamo => true
  | _, .extend | _, .linker | _, .nonJoiner | _, .joiner
  | _, .spacingMark => true
  | .prepended, _ => true
  | _, .consonant => state.conjunct = .linked
  | .joiner, .pictograph => state.pictograph
  | .regional, .regional => state.oddRegional
  | _, _ => false

/-- The state after one more character of the same cluster. -/
def push (state : ClusterState) (next : BreakClass) : ClusterState where
  last := next
  pictograph :=
    match next with
    | .pictograph => true
    | .extend | .linker | .nonJoiner | .joiner =>
        state.pictograph && state.last ≠ .joiner
    | _ => false
  conjunct :=
    match next with
    | .consonant => .consonant
    | .linker => if state.conjunct = .absent then .absent else .linked
    | .extend | .joiner => state.conjunct
    | _ => .absent
  oddRegional := next = .regional && !state.oddRegional

end ClusterState

/-- The rest of the current cluster and the clusters after it. -/
def clustersFrom (state : ClusterState) : Text → Cluster × List Cluster
  | [] => ([], [])
  | character :: rest =>
      let next := breakClass character
      if state.joins next then
        let parts := clustersFrom (state.push next) rest
        (character :: parts.1, parts.2)
      else
        let parts := clustersFrom (.start next) rest
        ([], (character :: parts.1) :: parts.2)

/-- The extended grapheme clusters of a text, in order. -/
def clusters : Text → List Cluster
  | [] => []
  | character :: rest =>
      let parts := clustersFrom (.start (breakClass character)) rest
      (character :: parts.1) :: parts.2

theorem clustersFrom_flatten (state : ClusterState) (text : Text) :
    (clustersFrom state text).1 ++ (clustersFrom state text).2.flatten =
      text := by
  induction text generalizing state with
  | nil => rfl
  | cons character rest ih =>
      simp only [clustersFrom]
      split
      · simp [ih]
      · simp [ih]

@[simp] theorem clusters_flatten (text : Text) :
    (clusters text).flatten = text := by
  cases text with
  | nil => rfl
  | cons character rest =>
      simp [clusters, clustersFrom_flatten]

theorem ne_nil_of_mem_clustersFrom {state : ClusterState} {text : Text}
    {cluster : Cluster} (membership : cluster ∈ (clustersFrom state text).2) :
    cluster ≠ [] := by
  induction text generalizing state with
  | nil => simp [clustersFrom] at membership
  | cons character rest ih =>
      simp only [clustersFrom] at membership
      split at membership
      · exact ih membership
      · rcases List.mem_cons.mp membership with rfl | later
        · simp
        · exact ih later

theorem ne_nil_of_mem_clusters {text : Text} {cluster : Cluster}
    (membership : cluster ∈ clusters text) : cluster ≠ [] := by
  cases text with
  | nil => simp [clusters] at membership
  | cons character rest =>
      rcases List.mem_cons.mp membership with rfl | later
      · simp
      · exact ne_nil_of_mem_clustersFrom later

@[simp] theorem clusters_nil : clusters [] = [] := rfl

@[simp] theorem clusters_eq_nil_iff {text : Text} :
    clusters text = [] ↔ text = [] := by
  cases text <;> simp [clusters]

end ModalTutor
