import Mathlib.Data.List.Rotate
import ModalTutor.Proofs.ModeCoherence
import ModalTutor.Proofs.UndoRedo

/-!
# Going round the matches

The matches of a search stand in a circle, on which one key goes forward and
the other one back.  `Search.moved` says where any number of steps leads, by
the remainder of their sum; `Idle.feed_turns` says that a session takes just
these steps, even where an edit has left a match outside of the text, and
`matches_form_a_cycle` draws the conclusions.
-/

namespace ModalTutor

/-- One step from match to match. -/
inductive Turn where
  | next
  | previous
  deriving DecidableEq, Repr

namespace Turn

def key : Turn → Key
  | next => .char 'n'
  | previous => .char 'N'

def command : Turn → Command
  | next => .searchNext
  | previous => .searchPrevious

def opposite : Turn → Turn
  | next => previous
  | previous => next

def step : Turn → Search → Search
  | next => Search.advance
  | previous => Search.retreat

/-- How far the step leads in document order. -/
def offset : Turn → Int
  | next => 1
  | previous => -1

/-- How far some steps lead together. -/
def totalOffset : List Turn → Int
  | [] => 0
  | turn :: later => turn.offset + totalOffset later

/-- A list as steps of one kind pass through it. -/
def order (turn : Turn) (list : List α) : List α :=
  match turn with
  | next => list
  | previous => list.reverse

theorem offset_opposite (turn : Turn) :
    turn.offset + turn.opposite.offset = 0 := by
  cases turn <;> rfl

theorem totalOffset_replicate (turn : Turn) (count : Nat) :
    totalOffset (List.replicate count turn) = turn.offset * count := by
  induction count with
  | zero => simp [totalOffset]
  | succ count ih =>
      rw [List.replicate_succ, totalOffset, ih, Int.natCast_succ, Int.mul_add,
        Int.mul_one, Int.add_comm]

end Turn

namespace Search

/-- The search at the match that lies some steps further on the circle. -/
def moved (search : Search) (offset : Int) : Search :=
  { search with
    index := ((search.index + offset) % search.positions.length).toNat }

variable {search : Search}

theorem index_moved (found : search.positions ≠ []) (offset : Int) :
    ((search.moved offset).index : Int) =
      (search.index + offset) % search.positions.length := by
  have total : (search.positions.length : Int) ≠ 0 := by
    simpa [List.length_eq_zero_iff] using found
  exact Int.toNat_of_nonneg (Int.emod_nonneg _ total)

theorem index_moved_lt (found : search.positions ≠ []) (offset : Int) :
    (search.moved offset).index < search.positions.length := by
  have total : (0 : Int) < search.positions.length := by
    simpa [List.length_pos_iff] using found
  have bound := Int.emod_lt_of_pos (search.index + offset) total
  rw [← index_moved found] at bound
  exact Int.ofNat_lt.mp bound

/-- The index is the one that lies whole rounds away from the sum. -/
theorem index_moved_eq {index : Nat}
    (inRange : index < search.positions.length) {offset : Int} (rounds : Int)
    (sum : search.index + offset = index + rounds * search.positions.length) :
    (search.moved offset).index = index := by
  rw [moved, sum, Int.add_mul_emod_self_right, ← Int.natCast_emod,
    Int.toNat_natCast, Nat.mod_eq_of_lt inRange]

theorem moved_moved (found : search.positions ≠ []) (first second : Int) :
    (search.moved first).moved second = search.moved (first + second) := by
  have sum : ((search.moved first).index + second) %
        search.positions.length =
      (search.index + (first + second)) % search.positions.length := by
    rw [index_moved found, Int.emod_add_emod, Int.add_assoc]
  exact congrArg (fun index : Int => { search with index := index.toNat }) sum

/-- Whole rounds lead back. -/
theorem moved_rounds (inRange : search.index < search.positions.length)
    (rounds : Int) :
    search.moved (rounds * search.positions.length) = search :=
  congrArg (fun index => { search with index })
    (index_moved_eq inRange rounds rfl)

/-- A step back adds one round less one, so it does not fall below the first
match. -/
theorem step_eq_moved (found : search.positions ≠ []) (turn : Turn) :
    turn.step search = search.moved turn.offset := by
  have positive := List.length_pos_iff.mpr found
  cases turn with
  | next =>
      rw [Turn.step, advance, if_neg found]
      rfl
  | previous =>
      have round : (search.index : Int) + -1 + search.positions.length =
          ((search.index + search.positions.length - 1 : Nat) : Int) := by
        omega
      rw [Turn.step, retreat, if_neg found, moved, Turn.offset,
        ← Int.add_emod_right, round]
      rfl

/-- Steps of one kind pass through all indices in order, and at the end they
come in again at the beginning. -/
theorem indices_isRotated (inRange : search.index < search.positions.length)
    (turn : Turn) :
    ((List.range search.positions.length).map fun earlier =>
        (search.moved (turn.offset * (earlier + 1 : Nat))).index) ~r
      turn.order (List.range search.positions.length) := by
  have positive := Nat.zero_lt_of_lt inRange
  cases turn with
  | next =>
      refine List.IsRotated.symm ⟨search.index + 1, ?_⟩
      refine List.ext_getElem (by simp [Turn.order]) ?_
      intro earlier _ _
      simp only [Turn.order, List.getElem_rotate, List.getElem_map,
        List.getElem_range, List.length_range]
      let place := earlier + (search.index + 1)
      have split := Nat.div_add_mod' place search.positions.length
      refine (index_moved_eq (Nat.mod_lt place positive)
        (place / search.positions.length : Nat) ?_).symm
      rw [Turn.offset, ← Int.natCast_mul]
      omega
  | previous =>
      refine List.IsRotated.symm
        ⟨search.positions.length - search.index, ?_⟩
      refine List.ext_getElem (by simp [Turn.order]) ?_
      intro earlier _ _
      simp only [Turn.order, List.getElem_rotate, List.getElem_map,
        List.getElem_reverse, List.getElem_range, List.length_range,
        List.length_reverse]
      let place := earlier + (search.positions.length - search.index)
      have split := Nat.div_add_mod' place search.positions.length
      have below := Nat.mod_lt place positive
      refine (index_moved_eq (Nat.sub_one_sub_lt_of_lt below)
        (-(place / search.positions.length : Nat)) ?_).symm
      rw [Turn.offset, Int.neg_mul (place / search.positions.length : Nat),
        ← Int.natCast_mul]
      omega

end Search

namespace Editor

/-- The editor `after` has gone from `before` to one of the matches of a
search, or as near to it as the text still reaches. -/
structure ReachesMatch (before after : Editor) (search : Search)
    (index : Nat) : Prop where
  stored : after.search = some { search with index }
  cursor : ∃ inRange : index < search.positions.length,
    after.cursor = search.positions[index].onCharacter before.buffer
  notice : after.notice.map Notice.text =
    some ("Match " ++ toString (index + 1) ++ " of " ++
      toString search.positions.length).toList
  buffer : after.buffer = before.buffer
  history : after.history = before.history

theorem reach_of_inRange (editor : Editor) {search : Search}
    (inRange : search.index < search.positions.length) :
    editor.reach search =
      { editor with
        cursor := search.positions[search.index].onCharacter editor.buffer
        search := some search
        notice := some (.matchReached (search.index + 1)
          search.positions.length) } := by
  have current : search.current? = some search.positions[search.index] :=
    List.getElem?_eq_getElem inRange
  rw [reach, current]
  rfl

/-- Where a search has led before does not matter at a match. -/
theorem reach_reach (editor : Editor) {earlier later : Search}
    (earlierInRange : earlier.index < earlier.positions.length)
    (laterInRange : later.index < later.positions.length) :
    (editor.reach earlier).reach later = editor.reach later := by
  rw [reach_of_inRange _ earlierInRange, reach_of_inRange _ laterInRange,
    reach_of_inRange _ laterInRange]

theorem run_turn {editor : Editor} (mode : editor.mode = .normal)
    {search : Search} (stored : editor.search = some search)
    (found : search.positions ≠ []) (notice : Option Notice) (turn : Turn) :
    ({ editor with notice }.run turn.command).2 =
      editor.reach (search.moved turn.offset) := by
  have stepped : ({ editor with notice }.perform turn.command).2 =
      { editor with notice }.reach (search.moved turn.offset) := by
    rw [← Search.step_eq_moved found turn]
    cases turn <;> simp [perform, stepSearch, Turn.command, Turn.step, stored]
  have inRange := Search.index_moved_lt found turn.offset
  unfold run
  dsimp only
  rw [stepped, reach_of_inRange _ inRange, reach_of_inRange _ inRange]
  simp [mode, settle]

end Editor

namespace Session

variable {session : Session} {search : Search}

theorem Idle.dispatch_turn (idle : session.Idle) (turn : Turn)
    (allowed : session.allows turn.command)
    (stored : session.editor.search = some search)
    (found : search.positions ≠ []) :
    (session.dispatch turn.key).2.editor =
      session.editor.reach (search.moved turn.offset) := by
  have completes : Interpretation.ofKey .normal .none turn.key =
      (.command turn.command, .none) := by
    cases turn <;> rfl
  have runs := idle.runs completes allowed
  have ran := congrArg Prod.snd runs.dispatch_eq
  rw [← idle.pending] at ran
  exact ran.trans (Editor.run_turn idle.mode stored found _ turn)

/-- After a step, the next one can be taken. -/
theorem Idle.after_turn (idle : session.Idle) (turn : Turn)
    (allowed : session.allows turn.command)
    (stored : session.editor.search = some search)
    (found : search.positions ≠ []) :
    (session.dispatch turn.key).2.Idle ∧
      (session.dispatch turn.key).2.editor.search =
        some (search.moved turn.offset) := by
  have stepped := (idle.dispatch_turn turn allowed stored found).trans
    (Editor.reach_of_inRange _ (Search.index_moved_lt found turn.offset))
  refine ⟨⟨?_, ?_⟩, ?_⟩
  · rw [stepped]
    exact idle.mode
  · rw [stepped]
    exact idle.pending
  · rw [stepped]

/-- Steps come to a single one that is as long as their sum. -/
theorem Idle.feed_turns (idle : session.Idle)
    (unrestricted : session.allowed = none)
    (stored : session.editor.search = some search)
    (found : search.positions ≠ []) (turn : Turn) (later : List Turn) :
    (session.feed ((turn :: later).map Turn.key)).editor =
      session.editor.reach
        (search.moved (Turn.totalOffset (turn :: later))) := by
  have allowed : session.allows turn.command := by
    simp [allows, unrestricted]
  have stepped := idle.dispatch_turn turn allowed stored found
  rw [List.map_cons, feed_cons, Turn.totalOffset]
  -- The first step leaves an idle session with a search to step on from, which
  -- is all that the others ask for.
  induction later generalizing session search turn with
  | nil =>
      rw [List.map_nil, feed_nil, stepped, Turn.totalOffset, Int.add_zero]
  | cons following later ih =>
      obtain ⟨stillIdle, stillStored⟩ :=
        idle.after_turn turn allowed stored found
      have stillUnrestricted :
          (session.dispatch turn.key).2.allowed = none := by
        rw [dispatch_allowed, unrestricted]
      have stillAllowed :
          (session.dispatch turn.key).2.allows following.command := by
        simp [allows, unrestricted]
      have walked := ih stillIdle stillUnrestricted stillStored found following
        stillAllowed
        (stillIdle.dispatch_turn following stillAllowed stillStored found)
      rw [List.map_cons, feed_cons, walked, stepped,
        Search.moved_moved found, Turn.totalOffset]
      exact Editor.reach_reach _ (Search.index_moved_lt found _)
        (Search.index_moved_lt found _)

/-- Steps from match to match go round a circle.  Any of them lead from the
current match to the one that lies as far on as they do in sum, put the cursor
there as far as the text still reaches, and leave text and history alone.  As
many steps of one kind as there are matches pass through every match once, in
order, and end where they began; and a step is undone by its opposite. -/
theorem matches_form_a_cycle (reachable : Reachable session)
    (unrestricted : session.allowed = none) (idle : session.Idle)
    (stored : session.editor.search = some search)
    (found : search.positions ≠ []) :
    let total := search.positions.length
    let after (turns : List Turn) := (session.feed (turns.map Turn.key)).editor
    (∀ turns ≠ [], ∃ index : Nat,
      (index : Int) = (search.index + Turn.totalOffset turns) % total ∧
        session.editor.ReachesMatch (after turns) search index) ∧
    ∀ turn : Turn,
      ((List.range total).map fun earlier =>
          (after (List.replicate (earlier + 1) turn)).search.map
            Search.index) ~r
        (turn.order (List.range total)).map some ∧
      (after (List.replicate total turn)).search = some search ∧
      (after [turn, turn.opposite]).search = some search := by
  intro total after
  have inRange : search.index < total :=
    (reachable.coherent.search search stored).index.resolve_right
      fun none => found none.1
  have landed (turn : Turn) (later : List Turn) :=
    (idle.feed_turns unrestricted stored found turn later).trans
      (Editor.reach_of_inRange session.editor
        (Search.index_moved_lt found (Turn.totalOffset (turn :: later))))
  have reached (turn : Turn) (earlier : Nat) :
      (after (List.replicate (earlier + 1) turn)).search =
        some (search.moved (turn.offset * (earlier + 1 : Nat))) := by
    rw [← Turn.totalOffset_replicate]
    exact congrArg Editor.search (landed turn (List.replicate earlier turn))
  refine ⟨?_, fun turn => ⟨?_, ?_, ?_⟩⟩
  · intro turns nonempty
    obtain ⟨turn, later, rfl⟩ := List.exists_cons_of_ne_nil nonempty
    refine ⟨_, Search.index_moved found _, ?_⟩
    rw [show after (turn :: later) = _ from landed turn later]
    exact ⟨rfl, ⟨Search.index_moved_lt found _, rfl⟩, rfl, rfl, rfl⟩
  · have circle := (Search.indices_isRotated inRange turn).map some
    rw [List.map_map] at circle
    simp only [reached]
    exact circle
  · have round : total - 1 + 1 = total := by omega
    have stays := Search.moved_rounds inRange turn.offset
    rw [← round, reached, round, stays]
  · have back : Turn.totalOffset [turn, turn.opposite] = 0 * total := by
      rw [Int.zero_mul, Turn.totalOffset, Turn.totalOffset, Turn.totalOffset,
        Int.add_zero, Turn.offset_opposite]
    have stays := Search.moved_rounds inRange 0
    rw [← back] at stays
    exact (congrArg Editor.search (landed turn [turn.opposite])).trans
      (congrArg some stays)

/-- Of three matches, edits have left two outside of the text. -/
theorem stale_matches_form_a_cycle :
    let session := (ofBuffer (.ofLines [['a'], ['b', 'a'], ['a']]) 3).feed
      [.char '/', .char 'a', .plain .enter, .char 'd', .char 'd', .char 'x']
    let search : Search := ⟨['a'], .forward, [⟨0, 0⟩, ⟨1, 1⟩, ⟨2, 0⟩], 1⟩
    let after (turns : List Turn) := (session.feed (turns.map Turn.key)).editor
    Reachable session ∧ session.allowed = none ∧ session.Idle ∧
    session.editor.buffer.lines = [['a'], []] ∧
    session.editor.search = some search ∧ search.positions ≠ [] ∧
    (∀ turns ≠ [], ∃ index : Nat,
      (index : Int) = (search.index + Turn.totalOffset turns) % (3 : Nat) ∧
        session.editor.ReachesMatch (after turns) search index) ∧
    ∀ turn : Turn,
      ((List.range 3).map fun earlier =>
          (after (List.replicate (earlier + 1) turn)).search.map
            Search.index) ~r
        (turn.order (List.range 3)).map some ∧
      (after (List.replicate 3 turn)).search = some search ∧
      (after [turn, turn.opposite]).search = some search := by
  intro session search after
  have reachable : Reachable session :=
    (Reachable.ofBuffer (.ofLines [['a'], ['b', 'a'], ['a']]) 3).feed _
  have idle : session.Idle := ⟨by decide +kernel, by decide +kernel⟩
  have stored : session.editor.search = some search := by decide +kernel
  have found : search.positions ≠ [] := by decide
  exact ⟨reachable, rfl, idle, by decide +kernel, stored, found,
    matches_form_a_cycle reachable rfl idle stored found⟩

end Session

end ModalTutor
