import GraphScript.Lowering.Session
import GraphScript.Proofs.Statement
import GraphScript.Proofs.Visit

namespace GraphScript

/-- Whether an effect leaves the depth of writing as it is. -/
def Effect.isLevel : Effect → Bool
  | write (.openBlock _) => false
  | write .indent => false
  | write .close => false
  | _ => true

theorem Effect.isLevel_of_isLeaf {config : Config} {e : Effect} (h : e.isLeaf config = true) :
    e.isLevel = true := by
  cases e with
  | write piece =>
    cases piece with
    | openBlock => cases h
    | indent => cases h
    | close => cases h
    | _ => rfl
  | _ => rfl

namespace Writer

/-- Pieces that add the given lines at the depth of writing, wherever that is. -/
def Adds (pieces : List Piece) (lines : List Line) (waits : Bool) : Prop :=
  ∀ w : Writer, w.play pieces = w.added (lines.map (Line.shift w.depth)) waits

/-- Pieces that close all that they open. -/
def Closes (pieces : List Piece) : Prop :=
  ∀ w : Writer, w.run pieces = w.play pieces

/-- Lines of which the first stands at the outside, and none further out. -/
structure Upright (lines : List Line) : Prop where
  nonneg : ∀ line ∈ lines, 0 ≤ line.depth
  head : ∀ line ∈ lines.head?, line.depth = 0

/-- Pieces that add upright lines, whatever they leave open. -/
def Rooted (pieces : List Piece) : Prop :=
  ∃ lines waits, Adds pieces lines waits ∧ Upright lines

theorem adds_nil : Adds [] [] false := by
  intro w
  simp [play, run, added]

theorem closes_nil : Closes [] := fun _ => rfl

variable {first second pieces : List Piece} {lines lines' : List Line} {waits waits' : Bool}

/-- After pieces that close all they open, writing goes on at the same depth. -/
theorem play_append (closed : Closes first) (w : Writer) :
    w.play (first ++ second) = (w.play first).play second := by
  change { w.run (first ++ second) with depth := w.depth, frames := w.frames } = _
  rw [run_append, closed w]
  rfl

theorem Adds.append (h : Adds first lines waits) (closed : Closes first)
    (h' : Adds second lines' waits') : Adds (first ++ second) (lines ++ lines') (waits || waits') := by
  intro w
  rw [play_append closed, h w, h' _]
  change (w.added _ _).added (lines'.map (Line.shift w.depth)) _ = _
  rw [added_added, List.map_append]

theorem Closes.append (h : Closes first) (h' : Closes second) : Closes (first ++ second) := by
  intro w
  rw [run_append, h w, h' _, play_append h]

theorem Upright.append (h : Upright lines) (h' : Upright lines') : Upright (lines ++ lines') := by
  refine ⟨List.forall_mem_append.mpr ⟨h.nonneg, h'.nonneg⟩, ?_⟩
  cases lines with
  | nil => exact h'.head
  | cons top rest => exact h.head

theorem Rooted.append (h : Rooted first) (closed : Closes first) (h' : Rooted second) :
    Rooted (first ++ second) := by
  obtain ⟨lines, waits, adds, upright⟩ := h
  obtain ⟨lines', waits', adds', upright'⟩ := h'
  exact ⟨_, _, adds.append closed adds', upright.append upright'⟩

theorem upright_singleton (text : String) : Upright [⟨0, text⟩] :=
  ⟨by simp, by simp⟩

/-- A piece that opens and closes nothing. -/
theorem rooted_level {piece : Piece} (h : (Effect.write piece).isLevel = true) :
    Rooted [piece] ∧ Closes [piece] := by
  cases piece with
  | line text =>
    refine ⟨⟨[⟨0, text⟩], false, fun w => ?_, upright_singleton text⟩, fun w => rfl⟩
    simp [play, run, step, line, added]
  | comment text =>
    refine ⟨⟨[⟨0, Passage.commentText text⟩], false, fun w => ?_, upright_singleton _⟩, fun w => rfl⟩
    simp [play, run, step, comment, line, added, Passage.commentText]
  | suspend =>
    refine ⟨⟨[], true, fun w => ?_, by simp, by simp⟩, fun w => rfl⟩
    simp [play, run, step, added]
  | openBlock => cases h
  | indent => cases h
  | close => cases h

/-- Pieces that write lines and then go one deeper. -/
structure Opens (pieces : List Piece) (frame : Frame) (lines : List Line) : Prop where
  run : ∀ w : Writer, w.run pieces = { w.added (lines.map (Line.shift w.depth)) false with
    depth := w.depth + 1
    frames := frame :: w.frames }
  upright : Upright lines
  nonempty : lines ≠ []

theorem opens_block (header : Option String) :
    Opens [.openBlock header] .block (header.toList.map (Line.mk 0) ++ [⟨0, "\x7b"⟩]) := by
  cases header with
  | none => exact ⟨fun w => by simp [run, step, openBlock, enter, line, added], by constructor <;> simp, by simp⟩
  | some text =>
    refine ⟨fun w => ?_, by constructor <;> simp, by simp⟩
    simp [run, step, openBlock, enter, line, added, ← Array.toList_inj]

theorem opens_under (test : String) : Opens [.line test, .indent] .indent [⟨0, test⟩] :=
  ⟨fun w => by simp [run, step, enter, line, added], upright_singleton test, by simp⟩

/-- Lines above deeper ones stay upright. -/
theorem Upright.over (h : Upright lines) (nonempty : lines ≠ []) (h' : Upright lines') :
    Upright (lines ++ lines'.map (Line.shift 1)) := by
  refine ⟨List.forall_mem_append.mpr ⟨h.nonneg, ?_⟩, ?_⟩
  · intro line hl
    obtain ⟨inner, hi, rfl⟩ := List.mem_map.mp hl
    have := h'.nonneg inner hi
    rw [Line.shift_depth]
    omega
  · obtain ⟨top, rest, rfl⟩ := List.exists_cons_of_ne_nil nonempty
    exact h.head

/-- The lines that closing a frame writes. -/
def closing : Frame → List Line
  | .block => [⟨0, "\x7d"⟩]
  | .indent => []

theorem upright_closing (frame : Frame) : Upright (closing frame) := by
  cases frame with
  | block => exact upright_singleton _
  | indent => exact ⟨by simp [closing], by simp [closing]⟩

variable {opening : List Piece} {frame : Frame} {above : List Line}

theorem Opens.play (h : Opens opening frame above) (adds : Adds pieces lines waits) (w : Writer) :
    ((w.run opening).play pieces).lines =
        (w.added ((above ++ lines.map (Line.shift 1)).map (Line.shift w.depth)) waits).lines ∧
      ((w.run opening).play pieces).suspends = (w.suspends || waits) := by
  have deeper : Line.shift w.depth ∘ Line.shift 1 = Line.shift (w.depth + 1) := by
    rw [Line.shift_shift, Int.add_comm]
  rw [adds, h.run]
  constructor
  · simp [added, deeper]
  · simp [added]

/-- What goes deeper and is broken off there. -/
theorem Opens.rooted (h : Opens opening frame above) (inner : Rooted pieces) :
    Rooted (opening ++ pieces) := by
  obtain ⟨lines, waits, adds, upright⟩ := inner
  refine ⟨_, waits, fun w => ?_, h.upright.over h.nonempty upright⟩
  obtain ⟨added, suspends⟩ := h.play adds w
  change { w.run (opening ++ pieces) with depth := w.depth, frames := w.frames } = _
  rw [run_append]
  change Writer.mk w.depth ((w.run opening).play pieces).suspends w.frames
    ((w.run opening).play pieces).lines = _
  rw [added, suspends]
  rfl

/-- What goes deeper and comes back. -/
theorem Opens.closes (h : Opens opening frame above) (inner : Rooted pieces) (closed : Closes pieces) :
    Rooted (opening ++ (pieces ++ [Piece.close])) ∧ Closes (opening ++ (pieces ++ [Piece.close])) := by
  obtain ⟨lines, waits, adds, upright⟩ := inner
  have whole (w : Writer) : w.run (opening ++ (pieces ++ [Piece.close])) =
      w.added ((above ++ lines.map (Line.shift 1) ++ closing frame).map (Line.shift w.depth)) waits := by
    obtain ⟨written, suspends⟩ := h.play adds w
    have inside : (w.run opening).play pieces = Writer.mk (w.depth + 1) (w.suspends || waits)
        (frame :: w.frames)
        (w.added ((above ++ lines.map (Line.shift 1)).map (Line.shift w.depth)) waits).lines := by
      rw [← written, ← suspends, h.run]
      rfl
    rw [run_append, run_append, closed, inside]
    cases frame with
    | block => simp [Writer.run, step, close, line, added, closing]
    | indent => simp [Writer.run, step, close, added, closing]
  refine ⟨⟨_, waits, fun w => ?_, (h.upright.over h.nonempty upright).append (upright_closing frame)⟩,
    fun w => ?_⟩
  · change { w.run (opening ++ (pieces ++ [Piece.close])) with depth := w.depth, frames := w.frames } = _
    rw [whole]
    rfl
  · change _ = { w.run (opening ++ (pieces ++ [Piece.close])) with depth := w.depth, frames := w.frames }
    rw [whole]
    rfl

theorem baseDepth_added {lines : List Line} (h : Upright lines) (depth : Int) (waits : Bool) :
    ((new depth).added (lines.map (Line.shift depth)) waits).baseDepth = depth := by
  have least (rest : List Line) (nonneg : ∀ line ∈ rest, 0 ≤ line.depth) :
      (rest.map (Line.shift depth)).foldl (fun least line => min least line.depth) depth = depth := by
    induction rest with
    | nil => rfl
    | cons top rest ih =>
      obtain ⟨first, others⟩ := List.forall_mem_cons.mp nonneg
      rw [List.map_cons, List.foldl_cons, Line.shift_depth, Int.min_eq_left (by omega)]
      exact ih others
  cases lines with
  | nil => simp [baseDepth, added, new]
  | cons top rest =>
    have outermost : top.depth + depth = depth := by
      rw [h.head top rfl, Int.zero_add]
    have below := least rest fun line hl => h.nonneg line (List.mem_cons_of_mem _ hl)
    simpa [baseDepth, added, new, outermost] using below

/-- Rooted pieces that are written on their own and spliced in are as if they were written in their
place. -/
theorem extend_play (h : Rooted pieces) (w : Writer) (depth : Int) :
    w.extend ((new depth).play pieces) = w.play pieces := by
  obtain ⟨lines, waits, adds, upright⟩ := h
  have back : Line.shift (w.depth - depth) ∘ Line.shift depth = Line.shift w.depth := by
    rw [Line.shift_shift]
    congr 1
    omega
  rw [adds w, adds (new depth), extend]
  change { w with
    suspends := w.suspends || (false || waits)
    lines := w.lines ++ ((new depth).lines ++ (lines.map (Line.shift depth)).toArray).map
      (Line.shift (w.depth - ((new depth).added (lines.map (Line.shift depth)) waits).baseDepth)) } = _
  rw [baseDepth_added upright]
  simp [added, new, back]

end Writer

theorem prefix_append_cases {γ : Type} {l first second : List γ} (h : l <+: first ++ second) :
    l <+: first ∨ ∃ rest, l = first ++ rest ∧ rest <+: second := by
  rcases List.prefix_or_prefix_of_prefix h (List.prefix_append first second) with inside | ⟨rest, rfl⟩
  · exact .inl inside
  · exact .inr ⟨rest, rfl, (List.prefix_append_right_inj first).mp h⟩

namespace Lowered

variable {α β : Type}

/-- A lowering whose code is rooted, wherever it is broken off, and closed when it ends. -/
structure Rooted (x : Lowered α) : Prop where
  begun : ∀ pieces, pieces <+: x.pieces → Writer.Rooted pieces
  closed : ∀ a, x.result = .ok a → Writer.Closes x.pieces

theorem rooted_nil : Writer.Rooted [] :=
  ⟨[], false, Writer.adds_nil, by simp, by simp⟩

theorem rooted_of_pieces {x : Lowered α} (h : x.pieces = []) : x.Rooted := by
  refine ⟨fun pieces hp => ?_, fun _ _ => h ▸ Writer.closes_nil⟩
  rw [h, List.prefix_nil] at hp
  exact hp ▸ rooted_nil

theorem rooted_perform {e : Effect} (h : e.isLevel = true) : (perform e).Rooted := by
  cases e with
  | write piece =>
    obtain ⟨rooted, closes⟩ := Writer.rooted_level h
    refine ⟨fun pieces hp => ?_, fun _ _ => closes⟩
    change pieces <+: [piece] at hp
    rcases List.prefix_cons_iff.mp hp with rfl | ⟨rest, rfl, hr⟩
    · exact rooted_nil
    · rw [List.prefix_nil.mp hr]
      exact rooted
  | _ => exact rooted_of_pieces rfl

theorem Rooted.bind {x : Lowered α} {f : α → Lowered β} (h : x.Rooted) (h' : ∀ a, (f a).Rooted) :
    (x >>= f).Rooted := by
  cases hx : x.result with
  | error fault =>
    rw [bind_of_error hx]
    exact ⟨h.begun, fun _ hb => by cases hb⟩
  | ok a =>
    have pieces := pieces_of_ok hx f
    refine ⟨fun begun hp => ?_, fun b hb => ?_⟩
    · rw [pieces] at hp
      rcases prefix_append_cases hp with hp | ⟨rest, rfl, hr⟩
      · exact h.begun _ hp
      · exact (h.begun _ List.prefix_rfl).append (h.closed a hx) ((h' a).begun rest hr)
    · rw [bind_of_ok hx] at hb
      rw [pieces]
      exact (h.closed a hx).append ((h' a).closed b hb)

/-- What stands between pieces that go deeper and the one that comes back. -/
theorem Rooted.enclosed {opening body : Lowered Unit} {frame : Frame} {above : List Line}
    (ends : opening.result = .ok ()) (opens : Writer.Opens opening.pieces frame above)
    (begun : ∀ pieces, pieces <+: opening.pieces → Writer.Rooted pieces) (h : body.Rooted) :
    (do opening; body; perform (.write .close) : Lowered Unit).Rooted := by
  have inside {pieces : List Piece} (hp : pieces <+: opening.pieces ++ body.pieces) :
      Writer.Rooted pieces := by
    rcases prefix_append_cases hp with hp | ⟨rest, rfl, hr⟩
    · exact begun pieces hp
    · exact opens.rooted (h.begun rest hr)
  have first := pieces_of_ok ends fun _ => (do body; perform (.write .close) : Lowered Unit)
  cases hb : body.result with
  | error fault =>
    have broken : (do body; perform (.write .close) : Lowered Unit) = ⟨body.effects, .error fault⟩ :=
      bind_of_error hb _
    rw [broken] at first ⊢
    refine ⟨fun pieces hp => inside (first ▸ hp), fun _ ha => ?_⟩
    obtain ⟨_, -, ha⟩ := bind_result_ok ha
    cases ha
  | ok u =>
    have whole : (do body; perform (.write .close) : Lowered Unit).pieces =
        body.pieces ++ [Piece.close] :=
      pieces_of_ok hb _
    rw [whole] at first
    obtain ⟨rooted, closes⟩ := opens.closes (h.begun _ List.prefix_rfl) (h.closed u hb)
    refine ⟨fun pieces hp => ?_, fun _ _ => first ▸ closes⟩
    rw [first, ← List.append_assoc] at hp
    rcases List.prefix_concat_iff.mp hp with rfl | hp
    · rw [List.append_assoc]
      exact rooted
    · exact inside hp

/-- Whatever is put together from level effects, blocks and tests is rooted. -/
theorem Composed.rooted {x : Lowered α} (h : x.Composed fun e => e.isLevel = true) : x.Rooted := by
  induction h with
  | pure => exact rooted_of_pieces rfl
  | perform he => exact rooted_perform he
  | ofExcept => exact rooted_of_pieces rfl
  | bind _ _ hx hf => exact hx.bind hf
  | block header _ hb =>
    have opens := Writer.opens_block header
    refine Rooted.enclosed rfl opens (fun pieces hp => ?_) hb
    change pieces <+: [] ++ [Piece.openBlock header] at hp
    rcases List.prefix_concat_iff.mp hp with rfl | hp
    · exact opens.rooted rooted_nil
    · rw [List.prefix_nil.mp hp]
      exact rooted_nil
  | @under test _ ht _ hb =>
    have opens := Writer.opens_under test
    have first : (line test).Rooted := rooted_perform ht
    have enters : (do line test; Lowered.perform (.write .indent) : Lowered Unit).result = .ok () := rfl
    refine Rooted.enclosed enters opens (fun pieces hp => ?_) hb
    change pieces <+: [Piece.line test] ++ [Piece.indent] at hp
    rcases List.prefix_concat_iff.mp hp with rfl | hp
    · exact opens.rooted rooted_nil
    · exact first.begun pieces hp

theorem shown_pieces (settings : Log.Settings) (x : Lowered α) :
    (x.shown settings).pieces <+: x.pieces := by
  unfold shown
  dsimp only
  split
  next => exact (List.takeWhile_prefix _).filterMap _
  next => exact List.prefix_rfl

/-- Where notes are shown, a lowering can be broken off at each of them. -/
theorem Rooted.shown {x : Lowered α} (h : x.Rooted) (settings : Log.Settings) :
    (x.shown settings).Rooted := by
  refine ⟨fun pieces hp => h.begun pieces (hp.trans (shown_pieces settings x)), fun a ha => ?_⟩
  have whole := shown_eq_of_ok ha
  rw [whole] at ha ⊢
  exact h.closed a ha

theorem fallback_level (entity : String) (reason : Fallback) :
    (fallback entity reason).Composed fun e => e.isLevel = true := by
  refine .bind (.perform rfl) fun _ => ?_
  split
  next => exact .perform rfl
  next => exact .pure _

theorem IsPlain.level {config : Config} {x : Lowered α} (h : x.IsPlain config) :
    x.Composed fun e => e.isLevel = true :=
  h.mono fun _ => Effect.isLevel_of_isLeaf

end Lowered

namespace Context

open Lowered

variable {ctx : Context}

/-- An action is level where the modules that it can run are. -/
theorem lowerAction_level {inline : Inline} (action : Option String) (params : Params)
    (h : ∀ run, inline = some run → ∀ id, (run id).Composed fun e => e.isLevel = true) :
    (ctx.lowerAction inline action params).Composed fun e => e.isLevel = true := by
  cases inline with
  | none => exact (lowerAction_isPlain action params fun _ none => by cases none).level
  | some run =>
    let node : Node := ⟨"", "", action, params⟩
    have label := (label_isPlain action params : (ctx.lowerAction _ action params).IsPlain ctx.config).level
    cases hc : node.calledModule? with
    | none =>
      have plain : ctx.lowerAction (some run) action params =
          ctx.lowerAction (some fun _ => Pure.pure ()) action params := lowerAction_plain hc _ _
      rw [plain]
      exact label
    | some id =>
      have calls : ctx.lowerAction (some run) action params =
          ctx.lowerAction (some fun _ => Pure.pure ()) action params >>= fun _ => run id :=
        lowerAction_calls hc _
      rw [calls]
      exact .bind label fun _ => h run rfl id

/-- So is the code of every walk. -/
theorem lowerWalk_level (walk : Walk) :
    (ctx.lowerWalk walk).Composed fun e => e.isLevel = true := by
  induction walk with
  | done => exact .pure _
  | cut reason => exact fallback_level _ _
  | stop visit => exact .perform rfl
  | pass visit rest ih =>
    exact .bind (.perform rfl) fun _ => .ite (.bind (.perform rfl) fun _ => ih) ih
  | perform visit inlined rest hi ih =>
    refine .bind (.perform rfl) fun _ => .bind (lowerAction_level _ _ fun run hr id => ?_) fun _ => ih
    cases hr
    exact hi
  | branch visit yes no hy hn =>
    refine .bind (.perform rfl) fun _ => .bind (lowerConditionNode_isSilent _).isPlain.level fun _ => ?_
    exact .bind (.block _ hy) fun _ => .block _ hn

end Context

namespace Session

/-- How an action runs modules: outside of walks as the session does, and in a walk after a path. -/
def inlineAt (s : Session) : Option Path → Inline
  | none => s.inline
  | some path => some fun id => s.context.lowerWalk (s.context.planModule s.budget path id)

def lowerAction (s : Session) (path : Option Path) (action : Option String) (params : Params) :
    Lowered Unit :=
  s.context.lowerAction (s.inlineAt path) action params

theorem lowerAction_rooted (s : Session) (path : Option Path) (action : Option String)
    (params : Params) : (s.lowerAction path action params).Rooted := by
  refine (Context.lowerAction_level action params fun run hr id => ?_).rooted
  cases path with
  | none =>
    obtain ⟨-, same⟩ := Option.ite_none_right_eq_some.mp hr
    cases same
    exact Context.lowerWalk_level _
  | some path =>
    cases hr
    exact Context.lowerWalk_level _

/-- The same session with a fresh writer. -/
def apart (s : Session) (depth : Int) : Session :=
  { s with writer := .new depth }

/-- The session with what another one has come to, and the other's code spliced in. -/
def splice (s other : Session) : Session :=
  { other with writer := s.writer.extend other.writer }

/-- Lowering an action into a fresh writer and splicing that in comes to the same as lowering the action
in its place: the same code, facts, budget and records. This holds also of what is written before a
fault; without one, all that was opened is closed. -/
theorem splice_lowerAction (s : Session) (depth : Int) (settings : Log.Settings) (path : Option Path)
    (action : Option String) (params : Params) :
    let direct := (s.lowerAction path action params).shown settings
    let alone := ((s.apart depth).lowerAction path action params).shown settings
    alone.result = direct.result ∧ alone.records = direct.records ∧ alone.notes = direct.notes ∧
      s.splice ((s.apart depth).after alone) = s.after direct ∧
      ∀ u, direct.result = .ok u → (s.after direct).writer = s.writer.run direct.pieces := by
  have rooted := (s.lowerAction_rooted path action params).shown settings
  refine ⟨rfl, rfl, rfl, ?_, fun u hu => (rooted.closed u hu s.writer).symm⟩
  have code := Writer.extend_play (rooted.begun _ List.prefix_rfl) s.writer depth
  exact congrArg (fun w => { s.after ((s.lowerAction path action params).shown settings) with
    writer := w }) code

end Session

end GraphScript
