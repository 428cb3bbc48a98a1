import GraphScript.Proofs.Placement

namespace GraphScript

open CSharp

/-- How many braces are open for a reader of lines, and whether the last line was the test of a
hit. -/
structure Nesting where
  opened : Nat
  tested : Bool
deriving DecidableEq

namespace Nesting

/-- Reads a line that is as deep as it has to be. -/
def next (s : Nesting) (line : Line) : Option Nesting :=
  if line.text = "" then some ⟨s.opened, false⟩
  else if line.text = "\x7d" then
    if 0 < s.opened ∧ s.tested = false ∧ line.depth = s.opened - 1 then some ⟨s.opened - 1, false⟩
    else none
  else if line.depth = s.opened + s.tested.toNat then
    some ⟨if line.text = "\x7b" then s.opened + 1 else s.opened, line.text == hitLine⟩
  else none

def reads (s : Nesting) : List Line → Option Nesting
  | [] => some s
  | line :: rest => (s.next line).bind fun t => t.reads rest

theorem reads_append (s : Nesting) (first second : List Line) :
    s.reads (first ++ second) = (s.reads first).bind fun t => t.reads second := by
  induction first generalizing s with
  | nil => rfl
  | cons line first ih =>
    rw [List.cons_append, reads, reads, Option.bind_assoc]
    exact Option.bind_congr fun t _ => ih t

end Nesting

def opens (lines : List Line) : Nat :=
  lines.countP fun line => line.text == "\x7b"

def closes (lines : List Line) : Nat :=
  lines.countP fun line => line.text == "\x7d"

/-- Whether the last line is the test of a hit. -/
def endsTested (lines : List Line) : Bool :=
  (lines.getLast?.map Line.text) == some hitLine

/-- Lines whose braces pair up, each as deep as there are braces open around it. Only what follows the
test of a hit is one deeper. -/
structure WellNested (lines : List Line) : Prop where
  balanced : opens lines = closes lines
  bounded : ∀ before after, lines = before ++ after → closes before ≤ opens before
  depth : ∀ before line after, lines = before ++ line :: after → line.text ≠ "" →
    line.depth = (opens before : Int) - closes before - (if line.text = "\x7d" then 1 else 0) +
      (if endsTested before then 1 else 0)

namespace Nesting

theorem next_spec {s t : Nesting} {line : Line} (h : s.next line = some t) :
    t.opened + closes [line] = s.opened + opens [line] ∧ t.tested = (line.text == hitLine) ∧
      (line.text ≠ "" → line.depth = (s.opened : Int) - (if line.text = "\x7d" then 1 else 0) +
        (if s.tested then 1 else 0)) := by
  obtain ⟨opened, tested⟩ := s
  obtain ⟨depth, text⟩ := line
  unfold next at h
  dsimp only at h ⊢
  split at h
  next blank =>
    subst blank
    cases h
    exact ⟨rfl, rfl, fun filled => absurd rfl filled⟩
  next filled =>
    split at h
    next brace =>
      subst brace
      split at h
      next deep =>
        cases h
        obtain ⟨positive, rfl, rfl⟩ := deep
        refine ⟨?_, rfl, fun _ => by simp⟩
        change opened - 1 + 1 = opened + 0
        omega
      next => cases h
    next other =>
      split at h
      next deep =>
        cases h
        have none : closes [⟨depth, text⟩] = 0 := by simp [closes, other]
        refine ⟨?_, rfl, fun _ => ?_⟩
        · rw [none]
          by_cases brace : text = "\x7b" <;> simp [opens, brace]
        · cases tested <;> simp [deep, other]
      next => cases h

theorem reads_spec {n : Nat} {t : Nesting} {lines : List Line} (h : reads ⟨n, false⟩ lines = some t) :
    t.opened + closes lines = n + opens lines ∧ t.tested = endsTested lines := by
  induction lines using List.reverseRecOn generalizing t with
  | nil =>
    cases h
    exact ⟨rfl, rfl⟩
  | append_singleton lines line ih =>
    rw [reads_append, Option.bind_eq_some_iff] at h
    obtain ⟨s, hs, h⟩ := h
    obtain ⟨counts, -⟩ := ih hs
    have read : s.next line = some t := by simpa [reads] using h
    obtain ⟨own, tested, -⟩ := next_spec read
    refine ⟨?_, ?_⟩
    · unfold closes opens at *
      rw [List.countP_append, List.countP_append]
      omega
    · rw [tested, endsTested, List.getLast?_concat]
      rfl

/-- Lines that are read from outside of all braces to outside again are well nested. -/
theorem wellNested {lines : List Line} (h : reads ⟨0, false⟩ lines = some ⟨0, false⟩) :
    WellNested lines := by
  have cut (before after : List Line) (hl : lines = before ++ after) :
      ∃ t, reads ⟨0, false⟩ before = some t ∧ t.reads after = some ⟨0, false⟩ := by
    rw [hl, reads_append] at h
    exact Option.bind_eq_some_iff.mp h
  refine ⟨?_, fun before after hl => ?_, fun before line after hl filled => ?_⟩
  · obtain ⟨counts, -⟩ := reads_spec h
    dsimp only at counts
    omega
  · obtain ⟨t, ht, -⟩ := cut before after hl
    obtain ⟨counts, -⟩ := reads_spec ht
    omega
  · obtain ⟨t, ht, hr⟩ := cut before (line :: after) hl
    obtain ⟨u, hu, -⟩ := Option.bind_eq_some_iff.mp hr
    obtain ⟨counts, tested⟩ := reads_spec ht
    obtain ⟨-, -, deep⟩ := next_spec hu
    rw [deep filled, tested]
    omega

/-- A line that is no blank, no brace and no test of a hit. -/
theorem next_plain {text : String} (h : text ∉ ["", "\x7b", "\x7d", hitLine]) (n : Nat)
    (tested : Bool) : next ⟨n, tested⟩ ⟨n + tested.toNat, text⟩ = some ⟨n, false⟩ := by
  simp only [List.mem_cons, List.not_mem_nil, or_false, not_or] at h
  obtain ⟨filled, opening, closing, test⟩ := h
  simp [next, filled, opening, closing, test]

theorem not_special_of_isApart {text : String} (h : IsApart text.toList) :
    text ∉ ["", "\x7b", "\x7d", hitLine] := by
  obtain ⟨opening, closing, hit, -⟩ := isApart_iff.mp h
  simp only [List.mem_cons, List.not_mem_nil, or_false, not_or]
  refine ⟨?_, ?_, ?_, ?_⟩
  · rintro rfl
    cases opening
  · rintro rfl
    cases opening
  · rintro rfl
    cases closing
  · rintro rfl
    exact not_prefix_of_diverges hit (by decide)

theorem not_special_of_wait (seconds : String) :
    Passage.waitText seconds ∉ ["", "\x7b", "\x7d", hitLine] := by
  have first : Passage.waitStart.head? = some 'y' := by decide
  have head : (Passage.waitText seconds).toList.head? = some 'y' := by
    obtain ⟨rest, line⟩ := Passage.waitText_start seconds
    rw [← line, List.head?_append, first, Option.some_or]
  have others : ∀ text ∈ ["", "\x7b", "\x7d", hitLine], text.toList.head? ≠ some 'y' := by
    simp [hitLine]
  exact fun hm => others _ hm head

/-- A passage is read at any depth, and leaves the reader where it was. -/
theorem reads_passage {ctx : Context} {p : Passage} (h : p.IsOrdinary ctx) (n : Nat) :
    reads ⟨n, false⟩ (p.lines.map (Line.shift n)) = some ⟨n, false⟩ := by
  have single {text : String} (ht : text ∉ ["", "\x7b", "\x7d", hitLine]) (n : Nat) :
      reads ⟨n, false⟩ [⟨0 + (n : Int), text⟩] = some ⟨n, false⟩ := by
    have read := next_plain ht n false
    simp only [Bool.toNat_false, Nat.cast_zero, Int.add_zero] at read
    simp [reads, read]
  -- for every depth at once, since a block reads its body one deeper
  induction p generalizing n with
  | empty => rfl
  | line text =>
    rcases h with rfl | ordinary
    · rfl
    · exact single (not_special_of_isApart ordinary.apart) n
  | comment text => exact single (not_special_of_isApart (isApart_comment text)) n
  | wait seconds => exact single (not_special_of_wait seconds) n
  | under test statement =>
    obtain ⟨rfl, ordinary⟩ := h
    have first : next ⟨n, false⟩ (Line.shift n ⟨0, hitLine⟩) = some ⟨n, true⟩ := by
      simp [next, hitLine]
    have second := next_plain (not_special_of_isApart ordinary.apart) n true
    rw [Bool.toNat_true, Nat.cast_one, Int.add_comm] at second
    rw [Passage.lines, List.map_cons, List.map_singleton, reads, first, Option.bind_some, reads,
      Line.shift_mk, second]
    rfl
  | seq first second ih ih' =>
    rw [Passage.lines, List.map_append, reads_append, ih h.1 n]
    exact ih' h.2 n
  | block header body ih =>
    have inside : (body.lines.map (Line.shift 1)).map (Line.shift n) =
        body.lines.map (Line.shift (n + 1 : Nat)) := by
      rw [List.map_map, Line.shift_shift, Int.add_comm]
      rfl
    have opened : reads ⟨n, false⟩ ((header.toList.map (Line.mk 0)).map (Line.shift n)) =
        some ⟨n, false⟩ := by
      cases header with
      | none => rfl
      | some text => exact single (not_special_of_isApart (h.1 text rfl).apart) n
    have brace : next ⟨n, false⟩ (Line.shift n ⟨0, "\x7b"⟩) = some ⟨n + 1, false⟩ := by
      simp [next, hitLine]
    have closed : next ⟨n + 1, false⟩ (Line.shift n ⟨0, "\x7d"⟩) = some ⟨n, false⟩ := by simp [next]
    rw [Passage.lines, List.map_append, List.map_cons, List.map_append, inside, reads_append, opened,
      Option.bind_some, reads, brace, Option.bind_some, reads_append, ih h.2 (n + 1), Option.bind_some,
      List.map_singleton, reads, closed]
    rfl

end Nesting

/-- The file of an entity is well nested, and ends outside of all braces with the one that closes the
class. -/
theorem assemble_wellNested {draft : Config.Draft} {config : Config}
    (valid : draft.check = .ok config) {entity : Entity} {a : Artifact}
    (h : (assemble config entity).result = .ok (some a)) :
    ∃ w, (Context.of entity config).classWriter.result = .ok w ∧
      a.source = w.render config.indent ++ "\n" ∧ WellNested w.lines.toList ∧ w.depth = 0 ∧
      ∃ above inside, w.lines.toList = above ++
        ⟨0, "public class " ++ (Context.of entity config).className ++ " : MonoBehaviour"⟩ ::
          ⟨0, "\x7b"⟩ :: (inside ++ [⟨0, "\x7d"⟩]) := by
  obtain ⟨w, s, hw, source, rfl⟩ := assemble_assembly valid h
  have ordinary := s.isOrdinary (Context.of_named valid entity)
  have read := Nesting.reads_passage ordinary 0
  rw [Nat.cast_zero, Line.shift_zero, List.map_id] at read
  refine ⟨_, hw, source, ?_, Writer.depth_run _, s.code.header.lines, ?_⟩
  · rw [Writer.lines_run]
    exact Nesting.wellNested read
  · rw [Writer.lines_run]
    exact ⟨_, rfl⟩

theorem assemble_wellNested_busy :
    ∃ config a, Config.Draft.default.check = .ok config ∧
      (assemble config busyEntity).result = .ok (some a) ∧
      ∃ w, (Context.of busyEntity config).classWriter.result = .ok w ∧ WellNested w.lines.toList := by
  obtain ⟨config, valid⟩ : ∃ config, Config.Draft.default.check = .ok config := ⟨_, rfl⟩
  obtain ⟨a, ha⟩ := busyEntity_assembles config
  obtain ⟨w, hw, -, nested, -⟩ := assemble_wellNested valid ha
  exact ⟨config, a, valid, ha, w, hw, nested⟩

end GraphScript
