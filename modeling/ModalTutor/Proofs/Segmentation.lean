import ModalTutor.Text.Line

/-!
# Cutting lines between clusters

A line that is cut at a column falls into the clusters before and the clusters
after it.  What is appended to a text can only join its last cluster, so a
column never lies further back in a longer text.
-/

namespace ModalTutor

open Unicode (breakClass)

theorem clustersFrom_take (state : ClusterState) (text : Text)
    (count : Nat) :
    clustersFrom state ((clustersFrom state text).1 ++
        ((clustersFrom state text).2.take count).flatten) =
      ((clustersFrom state text).1,
        (clustersFrom state text).2.take count) := by
  induction text generalizing state count with
  | nil => simp [clustersFrom]
  | cons character rest ih =>
      cases joins : state.joins (breakClass character) with
      | true => simp [clustersFrom, joins, ih]
      | false =>
          cases count with
          | zero => simp [clustersFrom, joins]
          | succ count => simp [clustersFrom, joins, ih]

theorem clusters_take (text : Text) (count : Nat) :
    clusters ((clusters text).take count).flatten =
      (clusters text).take count := by
  cases text with
  | nil => simp
  | cons character rest =>
      cases count with
      | zero => rfl
      | succ count => simp [clusters, clustersFrom_take]

theorem clusters_drop_clustersFrom (state : ClusterState) (text : Text)
    (count : Nat) :
    clusters ((clustersFrom state text).2.drop count).flatten =
      (clustersFrom state text).2.drop count := by
  induction text generalizing state count with
  | nil => simp [clustersFrom]
  | cons character rest ih =>
      cases joins : state.joins (breakClass character) with
      | true => simpa [clustersFrom, joins] using ih _ count
      | false =>
          cases count with
          | zero =>
              simp [clustersFrom, joins, clusters, clustersFrom_flatten]
          | succ count => simpa [clustersFrom, joins] using ih _ count

theorem clusters_drop (text : Text) (count : Nat) :
    clusters ((clusters text).drop count).flatten =
      (clusters text).drop count := by
  cases text with
  | nil => simp
  | cons character rest =>
      cases count with
      | zero => simp
      | succ count =>
          simpa [clusters] using clusters_drop_clustersFrom _ rest count

theorem prefix_clustersFrom_append (state : ClusterState)
    (first second : Text) :
    first <+: (clustersFrom state (first ++ second)).1 ++
      ((clustersFrom state (first ++ second)).2.take
        (clustersFrom state first).2.length).flatten := by
  induction first generalizing state with
  | nil => exact List.nil_prefix
  | cons character rest ih =>
      cases joins : state.joins (breakClass character) with
      | true => simpa [clustersFrom, joins] using ih _
      | false => simpa [clustersFrom, joins] using ih _

/-- One more character is a cluster of its own or joins the last one. -/
theorem clustersFrom_concat (state : ClusterState) (text : Text)
    (character : Char) :
    clustersFrom state (text ++ [character]) =
        ((clustersFrom state text).1,
          (clustersFrom state text).2 ++ [[character]]) ∨
      (clustersFrom state (text ++ [character])).2.length =
        (clustersFrom state text).2.length := by
  induction text generalizing state with
  | nil =>
      cases joins : state.joins (breakClass character) with
      | true =>
          right
          simp [clustersFrom, joins]
      | false =>
          left
          simp [clustersFrom, joins]
  | cons first rest ih =>
      cases joins : state.joins (breakClass first) with
      | true =>
          rcases ih (state.push (breakClass first)) with apart | joined
          · left
            simp [clustersFrom, joins, apart]
          · right
            simpa [clustersFrom, joins] using joined
      | false =>
          rcases ih (.start (breakClass first)) with apart | joined
          · left
            simp [clustersFrom, joins, apart]
          · right
            simpa [clustersFrom, joins] using joined

theorem clusters_concat (text : Text) (character : Char) :
    clusters (text ++ [character]) = clusters text ++ [[character]] ∨
      (clusters (text ++ [character])).length = (clusters text).length := by
  cases text with
  | nil => exact .inl rfl
  | cons first rest =>
      rcases clustersFrom_concat (.start (breakClass first)) rest character
        with apart | joined
      · left
        simp [clusters, apart]
      · right
        simpa [clusters] using joined

namespace Line

@[simp] theorem clusters_upTo (line : Text) (column : Nat) :
    clusters (upTo line column) = (clusters line).take column :=
  clusters_take line column

@[simp] theorem clusters_onward (line : Text) (column : Nat) :
    clusters (onward line column) = (clusters line).drop column :=
  clusters_drop line column

theorem clusters_upTo_append_onward (line : Text) (column : Nat) :
    clusters line =
      clusters (upTo line column) ++ clusters (onward line column) := by
  rw [clusters_upTo, clusters_onward, List.take_append_drop]

theorem width_upTo (line : Text) (column : Nat) :
    width (upTo line column) = min column (width line) := by
  rw [width, clusters_upTo, List.length_take]
  rfl

/-- A column beyond the end stands for the end. -/
theorem upTo_min_width (line : Text) (column : Nat) :
    upTo line (min column (width line)) = upTo line column := by
  rw [upTo, upTo, width, ← List.take_eq_take_min]

theorem onward_eq_of_upTo {before after : Text} {column : Nat}
    (cut : upTo (before ++ after) column = before) :
    onward (before ++ after) column = after := by
  have whole := upTo_append_onward (before ++ after) column
  rw [cut] at whole
  exact List.append_cancel_left whole

theorem width_concat_le (text : Text) (character : Char) :
    width (text ++ [character]) ≤ width text + 1 := by
  rcases clusters_concat text character with apart | joined
  · simp [width, apart]
  · rw [width, joined]
    exact Nat.le_succ _

theorem upTo_prefix_upTo (line : Text) {column later : Nat}
    (ordered : column ≤ later) : upTo line column <+: upTo line later := by
  obtain ⟨between, split⟩ := List.take_prefix_take_left ordered
  refine ⟨between.flatten, ?_⟩
  rw [upTo, upTo, ← List.flatten_append, split]

/-- In a longer text, the columns of a text take up all of it and possibly
more. -/
theorem prefix_upTo_append (first second : Text) :
    first <+: upTo (first ++ second) (width first) := by
  cases first with
  | nil => exact List.nil_prefix
  | cons character rest =>
      simpa [upTo, width, clusters]
        using prefix_clustersFrom_append _ rest second

end Line

end ModalTutor
