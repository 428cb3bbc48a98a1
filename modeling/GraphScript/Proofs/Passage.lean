import GraphScript.Code.Writer

namespace GraphScript

def Line.shift (n : Int) (line : Line) : Line :=
  { line with depth := line.depth + n }

@[simp] theorem Line.shift_text (n : Int) (line : Line) : (line.shift n).text = line.text := rfl

@[simp] theorem Line.shift_depth (n : Int) (line : Line) : (line.shift n).depth = line.depth + n :=
  rfl

@[simp] theorem Line.shift_mk (n depth : Int) (text : String) :
    Line.shift n ⟨depth, text⟩ = ⟨depth + n, text⟩ := rfl

theorem Line.shift_shift (m n : Int) : Line.shift m ∘ Line.shift n = Line.shift (n + m) := by
  funext line
  simp [shift, Int.add_assoc]

theorem Line.shift_zero : Line.shift 0 = id := by
  funext line
  simp [shift]

inductive Passage where
  | empty
  | line (text : String)
  | comment (text : String)
  /-- A wait for a number of seconds. -/
  | wait (seconds : String)
  | block (header : Option String) (body : Passage)
  /-- A statement under a test, without braces. -/
  | under (test statement : String)
  | seq (first second : Passage)

namespace Passage

def waitText (seconds : String) : String :=
  "yield return new WaitForSeconds(" ++ seconds ++ ")" ++ ";"

/-- How a wait begins, whatever it waits for. -/
def waitStart : List Char :=
  ['y', 'i', 'e', 'l', 'd', ' ', 'r', 'e', 't', 'u', 'r', 'n', ' ', 'n', 'e', 'w', ' ',
   'W', 'a', 'i', 't', 'F', 'o', 'r', 'S', 'e', 'c', 'o', 'n', 'd', 's', '(']

theorem waitText_start (seconds : String) : waitStart <+: (waitText seconds).toList := by
  have extend {first : String} (h : waitStart <+: first.toList) (rest : String) :
      waitStart <+: (first ++ rest).toList := by
    rw [String.toList_append]
    exact h.trans (List.prefix_append _ _)
  have start : waitStart <+: "yield return new WaitForSeconds(".toList := by decide
  exact extend (extend (extend start seconds) ")") ";"

def commentText (text : String) : String :=
  "// " ++ Text.flatten text

def pieces : Passage → List Piece
  | empty => []
  | line text => [.line text]
  | comment text => [.comment text]
  | wait seconds => [.line (waitText seconds), .suspend]
  | block header body => .openBlock header :: (body.pieces ++ [.close])
  | under test statement => [.line test, .indent, .line statement, .close]
  | seq first second => first.pieces ++ second.pieces

/-- The lines, with depths from zero on. -/
def lines : Passage → List Line
  | empty => []
  | line text => [⟨0, text⟩]
  | comment text => [⟨0, commentText text⟩]
  | wait seconds => [⟨0, waitText seconds⟩]
  | block header body =>
    header.toList.map (Line.mk 0) ++ ⟨0, "\x7b"⟩ :: (body.lines.map (Line.shift 1) ++ [⟨0, "\x7d"⟩])
  | under test statement => [⟨0, test⟩, ⟨1, statement⟩]
  | seq first second => first.lines ++ second.lines

/-- Whether there is a wait anywhere. -/
def waits : Passage → Bool
  | wait _ => true
  | block _ body => body.waits
  | seq first second => first.waits || second.waits
  | _ => false

def concat : List Passage → Passage
  | [] => empty
  | first :: rest => seq first (concat rest)

/-- A passage inside nested tests, the first of them on the outside. -/
def guarded (guards : List String) (body : Passage) : Passage :=
  guards.foldr (fun guard inner => block (some ("if (" ++ guard ++ ")")) inner) body

theorem depth_nonneg (p : Passage) : ∀ line ∈ p.lines, 0 ≤ line.depth := by
  induction p with
  | block header body ih =>
    intro line hl
    simp only [lines, List.mem_append, List.mem_cons, List.mem_map, List.not_mem_nil, or_false] at hl
    obtain ⟨_, -, rfl⟩ | rfl | ⟨inner, hi, rfl⟩ | rfl := hl
    · exact Int.le_refl 0
    · exact Int.le_refl 0
    · have := ih inner hi
      rw [Line.shift_depth]
      omega
    · exact Int.le_refl 0
  | seq first second ih ih' =>
    intro line hl
    exact (List.mem_append.mp hl).elim (ih line) (ih' line)
  | _ => simp [lines]

theorem head_depth (p : Passage) : ∀ line ∈ p.lines.head?, line.depth = 0 := by
  induction p with
  | block header body ih =>
    intro line hl
    cases header with
    | none =>
      cases Option.some.inj hl
      rfl
    | some text =>
      cases Option.some.inj hl
      rfl
  | seq first second ih ih' =>
    intro line hl
    rw [lines, List.head?_append] at hl
    cases hf : first.lines.head? with
    | none =>
      rw [hf] at hl
      exact ih' line hl
    | some top =>
      rw [hf] at hl
      exact ih line (hf ▸ hl)
  | _ => simp [lines]

end Passage

namespace Writer

/-- The writer with further lines. -/
def added (w : Writer) (lines : List Line) (waits : Bool) : Writer :=
  { w with
    suspends := w.suspends || waits
    lines := w.lines ++ lines.toArray }

theorem run_append (w : Writer) (first second : List Piece) :
    w.run (first ++ second) = (w.run first).run second :=
  List.foldl_append

theorem line_eq_added (w : Writer) (text : String) :
    w.line text = w.added [⟨w.depth, text⟩] false := by
  simp [line, added]

theorem added_added (w : Writer) (first second : List Line) (waits waits' : Bool) :
    (w.added first waits).added second waits' = w.added (first ++ second) (waits || waits') := by
  simp [added, Bool.or_assoc]

/-- A passage adds its lines at the current depth, and leaves open what was open. -/
theorem run_pieces (w : Writer) (p : Passage) :
    w.run p.pieces = w.added (p.lines.map (Line.shift w.depth)) p.waits := by
  induction p generalizing w with
  | empty => simp [Passage.pieces, Passage.lines, Passage.waits, run, added]
  | line text => simp [Passage.pieces, Passage.lines, Passage.waits, run, step, line_eq_added]
  | comment text =>
    simp [Passage.pieces, Passage.lines, Passage.waits, run, step, comment, line_eq_added,
      Passage.commentText]
  | wait seconds =>
    simp [Passage.pieces, Passage.lines, Passage.waits, run, step, line, added]
  | under test statement =>
    simp [Passage.pieces, Passage.lines, Passage.waits, run, step, line, added, enter, close,
      Int.add_comm, ← Array.toList_inj]
  | seq first second ih ih' =>
    rw [Passage.pieces, run_append, ih, ih']
    change (w.added _ _).added (second.lines.map (Line.shift w.depth)) _ = _
    rw [added_added, ← List.map_append]
    rfl
  | block header body ih =>
    have opened : w.openBlock header = { w with
        depth := w.depth + 1
        frames := .block :: w.frames
        lines := w.lines ++
          (header.toList.map (Line.mk w.depth) ++ [Line.mk w.depth "\x7b"]).toArray } := by
      cases header <;> simp [openBlock, line, enter, ← Array.toList_inj]
    have inside : (body.lines.map (Line.shift 1)).map (Line.shift w.depth) =
        body.lines.map (Line.shift (w.depth + 1)) := by
      rw [List.map_map, Line.shift_shift, Int.add_comm]
    change ((w.openBlock header).run (body.pieces ++ [Piece.close])) = _
    rw [run_append, opened, ih]
    cases header <;>
      simp [run, step, close, line, added, Passage.lines, Passage.waits, ← inside]

theorem lines_run (p : Passage) : ((new 0).run p.pieces).lines.toList = p.lines := by
  simp [run_pieces, new, added, Line.shift_zero]

theorem depth_run (p : Passage) : ((new 0).run p.pieces).depth = 0 := by
  rw [run_pieces]
  rfl

theorem baseDepth_run (p : Passage) : ((new 0).run p.pieces).baseDepth = 0 := by
  have least (lines : List Line) (h : ∀ line ∈ lines, 0 ≤ line.depth) :
      lines.foldl (fun least line => min least line.depth) 0 = 0 := by
    induction lines with
    | nil => rfl
    | cons top rest ih =>
      obtain ⟨first, others⟩ := List.forall_mem_cons.mp h
      rw [List.foldl_cons, Int.min_eq_left first]
      exact ih others
  unfold baseDepth
  rw [lines_run]
  split
  next => exact depth_run p
  next top rest hl =>
    rw [p.head_depth top (by simp [hl])]
    exact least rest fun line hm => p.depth_nonneg line (by simp [hl, hm])

/-- A passage that is written on its own and spliced in is as if it was written in its place. -/
theorem extend_run (w : Writer) (p : Passage) :
    w.extend ((new 0).run p.pieces) = w.run p.pieces := by
  unfold extend
  rw [baseDepth_run, run_pieces, run_pieces]
  simp only [new, added, Line.shift_zero, List.map_id, Bool.false_or, Array.empty_append,
    List.map_toArray, Int.sub_zero]
  rfl

theorem isEmpty_run (p : Passage) : ((new 0).run p.pieces).isEmpty = p.lines.isEmpty := by
  rw [run_pieces]
  cases hl : p.lines <;> simp [isEmpty, new, added]

theorem suspends_run (p : Passage) : ((new 0).run p.pieces).suspends = p.waits := by
  rw [run_pieces]
  simp [new, added]

/-- Opening guards one after another, splicing a passage in and closing them again nests it. -/
theorem run_guarded (w : Writer) (guards : List String) (body : Passage) :
    guards.foldl (fun w _ => w.close)
        ((guards.foldl (fun w guard => w.openBlock (some ("if (" ++ guard ++ ")"))) w).extend
          ((new 0).run body.pieces)) =
      w.run (Passage.guarded guards body).pieces := by
  rw [extend_run]
  induction guards generalizing w with
  | nil => rfl
  | cons guard guards ih =>
    -- the closing braces are all alike, so the one that closes the first guard can come last
    have last (w : Writer) : guards.foldl (fun w _ => w.close) w.close =
        (guards.foldl (fun w _ => w.close) w).close := by
      clear ih
      induction guards generalizing w with
      | nil => rfl
      | cons _ guards ih => exact ih w.close
    rw [List.foldl_cons, List.foldl_cons, last, ih]
    change _ = (w.openBlock (some ("if (" ++ guard ++ ")"))).run
      ((Passage.guarded guards body).pieces ++ [Piece.close])
    rw [run_append]
    rfl

end Writer

end GraphScript
