import GraphScript.Proofs.Lines

namespace GraphScript

open CSharp

/-- What a line means for the scopes of a method. -/
inductive Mark where
  | opening
  | closing
  | declares (name : String)
  | other
deriving DecidableEq, Repr

namespace Mark

/-- How the lines begin that declare a local. -/
def starts : List (String × String) :=
  [("var target = ", "target"), ("Vector3 dir = ", "dir"), ("Vector3 targetPos = ", "targetPos"),
   ("Vector3 direction = ", "direction"), ("var hits = ", "hits"), ("foreach (var hit in ", "hit"),
   ("float pulse = ", "pulse")]

def of (text : String) : Mark :=
  if text = "\x7b" then .opening
  else if text = "\x7d" then .closing
  else
    match starts.find? fun entry => entry.1.toList.isPrefixOf text.toList with
    | some entry => .declares entry.2
    | none => .other

def name? : Mark → Option String
  | declares name => some name
  | _ => none

/-- Whether a line opens and closes no block. -/
def isFlat : Mark → Bool
  | opening => false
  | closing => false
  | _ => true

theorem ne_of_diverges {text brace : String} (h : diverges brace.toList text.toList = true) :
    text ≠ brace := by
  rintro rfl
  exact not_prefix_of_diverges h List.prefix_rfl

/-- A line that begins like none of the lines with a meaning. -/
theorem of_diverges {text : String} (opened : diverges "\x7b".toList text.toList = true)
    (closed : diverges "\x7d".toList text.toList = true)
    (plain : ∀ entry ∈ starts, diverges entry.1.toList text.toList = true) : of text = .other := by
  have none : starts.find? (fun entry => entry.1.toList.isPrefixOf text.toList) = none := by
    apply List.find?_eq_none.mpr
    intro entry he start
    exact not_prefix_of_diverges (plain entry he) (List.isPrefixOf_iff_prefix.mp start)
  rw [of, if_neg (ne_of_diverges opened), if_neg (ne_of_diverges closed), none]

theorem of_head {text : String} {c : Char} (h : text.toList.head? = some c)
    (hc : c ∉ ['\x7b', '\x7d', 'v', 'V', 'f']) : of text = .other := by
  have other {d : Char} (hd : d ∈ ['\x7b', '\x7d', 'v', 'V', 'f']) (rest : List Char) :
      diverges (d :: rest) text.toList = true := by
    apply diverges_of_head h
    rintro rfl
    exact hc hd
  refine of_diverges (@other '\x7b' (by simp) []) (@other '\x7d' (by simp) []) ?_
  have heads : starts.all (fun entry => (entry.1.toList.head?.map fun d =>
      ['\x7b', '\x7d', 'v', 'V', 'f'].contains d) == some true) = true := by decide
  intro entry he
  have head := List.all_eq_true.mp heads entry he
  cases chars : entry.1.toList with
  | nil =>
    rw [chars] at head
    cases head
  | cons d rest =>
    rw [chars] at head
    exact other (by simpa using head) rest

/-- A line that begins with a word in front of which no line with a meaning begins. -/
theorem of_begins {words : List String} {text : String} (h : Begins words text)
    (apart : words.all (fun word => word.toList.head?.any fun c =>
      !(['\x7b', '\x7d', 'v', 'V', 'f'].contains c)) = true) : of text = .other := by
  obtain ⟨word, hw, rest, hp⟩ := h
  have outside := List.all_eq_true.mp apart word hw
  cases chars : word.toList with
  | nil =>
    rw [chars] at outside
    cases outside
  | cons c more =>
    rw [chars] at outside hp
    exact of_head (by rw [← hp]; rfl) (by simpa using outside)

theorem of_opened (first : String) (rest : List String)
    (apart : (first.toList.head?.any fun c => !(['\x7b', '\x7d', 'v', 'V', 'f'].contains c)) = true) :
    of (rest.foldl (· ++ ·) first) = .other := by
  have begins : Begins [first] first := ⟨first, by simp, List.prefix_rfl⟩
  exact of_begins (begins_foldl begins rest) (by simpa using apart)

/-- An assignment to a name, or a change of it. -/
theorem of_name {text name : String} (hn : IsName name) {c : Char} (hc : c ∈ ['=', '+', '-'])
    (h : name.toList ++ [' ', c] <+: text.toList) : of text = .other := by
  have brace {d : Char} (hd : d ∈ punctuation) (other : d ≠ ' ') :
      diverges [d] text.toList = true := by
    refine diverges_of_start ?_ h
    cases hw : name.toList with
    | nil => simp [diverges, other]
    | cons first word =>
      have different : d ≠ first := by
        rintro rfl
        exact hn.plain d hd (hw ▸ List.mem_cons_self)
      simp [diverges, different]
  have parted : starts.all (fun entry => isParted entry.1.toList) = true := by decide
  refine of_diverges (@brace '\x7b' (by decide) (by decide)) (@brace '\x7d' (by decide) (by decide)) ?_
  intro entry he
  exact diverges_of_start (isParted_diverges (List.all_eq_true.mp parted entry he) hn hc []) h

theorem of_operator {name operator : String} {c : Char} (hn : IsName name)
    (ho : [' ', c] <+: operator.toList) (hc : c ∈ ['=', '+', '-']) (rest : List String) :
    of (rest.foldl (· ++ ·) (name ++ operator)) = .other := by
  have start := prefix_foldl (name ++ operator) rest
  rw [String.toList_append] at start
  exact of_name hn hc (((List.prefix_append_right_inj _).mpr ho).trans start)

theorem of_comment (text : String) : of (Passage.commentText text) = .other :=
  of_opened "// " [Text.flatten text] (by decide)

theorem of_wait (seconds : String) : of (Passage.waitText seconds) = .other :=
  of_opened "yield return new WaitForSeconds(" [seconds, ")", ";"] (by decide)

/-- A line that begins with the declaration of a local. -/
theorem of_start {text start name : String} (entry : (start, name) ∈ starts)
    (h : start.toList <+: text.toList) : of text = .declares name := by
  have braces : starts.all (fun entry => diverges "\x7b".toList entry.1.toList &&
      diverges "\x7d".toList entry.1.toList) = true := by decide
  have apart : starts.all (fun entry => starts.all fun other =>
      entry == other || diverges other.1.toList entry.1.toList) = true := by decide
  obtain ⟨opened, closed⟩ := Bool.and_eq_true_iff.mp (List.all_eq_true.mp braces _ entry)
  rw [of, if_neg (ne_of_diverges (diverges_of_start opened h)),
    if_neg (ne_of_diverges (diverges_of_start closed h))]
  cases found : starts.find? fun entry => entry.1.toList.isPrefixOf text.toList with
  | none =>
    have missing := List.find?_eq_none.mp found _ entry
    exact absurd (List.isPrefixOf_iff_prefix.mpr h) missing
  | some other =>
    have begins : other.1.toList <+: text.toList := by
      simpa using List.find?_some found
    have either := List.all_eq_true.mp (List.all_eq_true.mp apart _ entry) other
      (List.mem_of_find?_eq_some found)
    rcases Bool.or_eq_true_iff.mp either with same | different
    · rw [← beq_iff_eq.mp same]
    · exact absurd begins (not_prefix_of_diverges (diverges_of_start different h))

theorem of_declared {start name : String} (entry : (start, name) ∈ starts) (first : String)
    (rest : List String) (h : start.toList <+: first.toList) :
    of (rest.foldl (· ++ ·) first) = .declares name :=
  of_start entry (h.trans (prefix_foldl first rest))

end Mark

/-- A local with the blocks around it, from the outside. A block is named by how many were opened
before it. -/
structure Local where
  name : String
  blocks : List Nat
deriving DecidableEq, Repr

/-- Two locals of one name of which neither stands in a block of the other or around it. -/
def Local.Apart (a b : Local) : Prop :=
  a.name = b.name → ¬a.blocks <+: b.blocks ∧ ¬b.blocks <+: a.blocks

instance Local.decidableApart (a b : Local) : Decidable (a.Apart b) :=
  inferInstanceAs (Decidable (_ → _))

/-- A place in a method: the blocks around it, and how many were opened before. -/
structure Spot where
  blocks : List Nat
  opened : Nat

namespace Spot

/-- The place where a method begins. -/
def start : Spot :=
  ⟨[], 0⟩

def next (place : Spot) : Mark → Spot
  | .opening => ⟨place.blocks ++ [place.opened], place.opened + 1⟩
  | .closing => ⟨place.blocks.dropLast, place.opened⟩
  | _ => place

def after (place : Spot) (marks : List Mark) : Spot :=
  marks.foldl next place

/-- The locals that are declared from a place on. -/
def locals (place : Spot) : List Mark → List Local
  | [] => []
  | mark :: rest => (mark.name?.toList.map fun name => ⟨name, place.blocks⟩) ++ (place.next mark).locals rest

theorem after_append (place : Spot) (first second : List Mark) :
    place.after (first ++ second) = (place.after first).after second :=
  List.foldl_append

theorem locals_append (place : Spot) (first second : List Mark) :
    place.locals (first ++ second) = place.locals first ++ (place.after first).locals second := by
  induction first generalizing place with
  | nil => rfl
  | cons mark first ih =>
    rw [List.cons_append, locals, locals, ih, List.append_assoc]
    rfl

theorem name_mem_of_locals {place : Spot} {marks : List Mark} {l : Local} (h : l ∈ place.locals marks) :
    l.name ∈ marks.filterMap Mark.name? := by
  induction marks generalizing place with
  | nil => cases h
  | cons mark marks ih =>
    rcases List.mem_append.mp h with h | h
    · obtain ⟨name, hn, rfl⟩ := List.mem_map.mp h
      exact List.mem_filterMap.mpr ⟨mark, List.mem_cons_self, Option.mem_toList.mp hn⟩
    · obtain ⟨later, hm, hn⟩ := List.mem_filterMap.mp (ih h)
      exact List.mem_filterMap.mpr ⟨later, List.mem_cons_of_mem _ hm, hn⟩

/-- Lines without braces stay in one block, and declare all their locals there. -/
theorem flat {marks : List Mark} (h : ∀ mark ∈ marks, mark.isFlat = true) (place : Spot) :
    place.after marks = place ∧
      place.locals marks = (marks.filterMap Mark.name?).map fun name => ⟨name, place.blocks⟩ := by
  induction marks with
  | nil => exact ⟨rfl, rfl⟩
  | cons mark marks ih =>
    obtain ⟨first, others⟩ := List.forall_mem_cons.mp h
    obtain ⟨stays, declared⟩ := ih others
    cases mark with
    | opening => cases first
    | closing => cases first
    | declares name =>
      refine ⟨stays, ?_⟩
      show ⟨name, place.blocks⟩ :: place.locals marks = _
      rw [declared]
      rfl
    | other => exact ⟨stays, declared⟩

end Spot

/-- Lines that open what they close, and keep their locals apart. Each local stands in a block that
these lines open, with at least a number of further blocks in between. -/
structure Enclosed (n : Nat) (marks : List Mark) : Prop where
  returns : ∀ place : Spot, (place.after marks).blocks = place.blocks
  forward : ∀ place : Spot, place.opened ≤ (place.after marks).opened
  inside : ∀ place : Spot, ∀ l ∈ place.locals marks, ∃ block rest,
    l.blocks = place.blocks ++ block :: rest ∧ n ≤ rest.length ∧ place.opened ≤ block ∧
      block < (place.after marks).opened
  apart : ∀ place : Spot, (place.locals marks).Pairwise Local.Apart

namespace Enclosed

variable {n : Nat}

/-- Lines that mean nothing for scopes. -/
theorem idle {marks : List Mark} (h : ∀ mark ∈ marks, mark = .other) : Enclosed n marks := by
  have flat : ∀ mark ∈ marks, mark.isFlat = true := fun mark hm => by rw [h mark hm]; rfl
  have names : marks.filterMap Mark.name? = [] :=
    List.filterMap_eq_nil_iff.mpr fun mark hm => by rw [h mark hm]; rfl
  have stays (place : Spot) : place.after marks = place := (Spot.flat flat place).1
  have declared (place : Spot) : place.locals marks = [] := by
    rw [(Spot.flat flat place).2, names]
    rfl
  refine ⟨fun place => by rw [stays], fun place => Nat.le_of_eq (by rw [stays]), fun place l hl => ?_,
    fun place => ?_⟩
  · rw [declared] at hl
    cases hl
  · rw [declared]
    exact .nil

theorem nil : Enclosed n [] :=
  idle (by simp)

theorem other : Enclosed n [.other] :=
  idle (by simp)

theorem append {first second : List Mark} (h : Enclosed n first) (h' : Enclosed n second) :
    Enclosed n (first ++ second) where
  returns place := by rw [Spot.after_append, h'.returns, h.returns]
  forward place := by
    rw [Spot.after_append]
    exact Nat.le_trans (h.forward place) (h'.forward _)
  inside place l hl := by
    rw [Spot.locals_append] at hl
    have onward := h.forward place
    have further := h'.forward (place.after first)
    rw [Spot.after_append]
    rcases List.mem_append.mp hl with hl | hl
    · obtain ⟨block, rest, hb, long, low, high⟩ := h.inside place l hl
      exact ⟨block, rest, hb, long, low, by omega⟩
    · obtain ⟨block, rest, hb, long, low, high⟩ := h'.inside _ l hl
      rw [h.returns] at hb
      exact ⟨block, rest, hb, long, by omega, high⟩
  apart place := by
    rw [Spot.locals_append]
    refine List.pairwise_append.mpr ⟨h.apart place, h'.apart _, ?_⟩
    -- the blocks of the second part were opened later, so they are others
    intro a ha b hb same
    obtain ⟨block, rest, blocks, -, -, high⟩ := h.inside place a ha
    obtain ⟨block', rest', blocks', -, low, -⟩ := h'.inside _ b hb
    rw [h.returns] at blocks'
    have different : block ≠ block' := by omega
    rw [blocks, blocks', List.prefix_append_right_inj, List.prefix_append_right_inj,
      List.cons_prefix_cons, List.cons_prefix_cons]
    exact ⟨fun h => different h.1, fun h => different h.1.symm⟩

section

variable {head tail : List Mark} (flat : ∀ mark ∈ head, mark.isFlat = true)
include flat

theorem after_block (h : Enclosed n tail) (place : Spot) :
    place.after (.opening :: (head ++ tail ++ [Mark.closing])) =
      ⟨place.blocks, ((place.next .opening).after tail).opened⟩ := by
  show (place.next .opening).after (head ++ tail ++ [Mark.closing]) = _
  rw [Spot.after_append, Spot.after_append, (Spot.flat flat _).1]
  show Spot.mk ((place.next .opening).after tail).blocks.dropLast _ = _
  rw [h.returns]
  simp [Spot.next]

theorem opened_block (h : Enclosed n tail) (place : Spot) :
    place.opened < (place.after (.opening :: (head ++ tail ++ [Mark.closing]))).opened := by
  have onward : place.opened + 1 ≤ ((place.next .opening).after tail).opened :=
    h.forward (place.next .opening)
  rw [after_block flat h]
  show _ < ((place.next .opening).after tail).opened
  omega

theorem locals_block (place : Spot) : place.locals (.opening :: (head ++ tail ++ [Mark.closing])) =
    ((head.filterMap Mark.name?).map fun name => ⟨name, place.blocks ++ [place.opened]⟩) ++
      (place.next .opening).locals tail := by
  show (place.next .opening).locals (head ++ tail ++ [Mark.closing]) = _
  rw [Spot.locals_append, Spot.locals_append, (Spot.flat flat _).1, (Spot.flat flat _).2]
  exact List.append_nil _

/-- A block whose own locals have different names, which no local further inside has. -/
theorem scope (distinct : (head.filterMap Mark.name?).Nodup) (h : Enclosed 0 tail)
    (fresh : ∀ name ∈ head.filterMap Mark.name?, name ∉ tail.filterMap Mark.name?) :
    Enclosed 0 (.opening :: (head ++ tail ++ [Mark.closing])) := by
  refine ⟨fun place => by rw [after_block flat h], fun place => (opened_block flat h place).le,
    fun place l hl => ?_, fun place => ?_⟩
  · have beyond := opened_block flat h place
    rw [locals_block flat] at hl
    rcases List.mem_append.mp hl with hl | hl
    · obtain ⟨name, -, rfl⟩ := List.mem_map.mp hl
      exact ⟨place.opened, [], rfl, Nat.le_refl _, Nat.le_refl _, beyond⟩
    · obtain ⟨block, rest, hb, -, -, -⟩ := h.inside _ l hl
      refine ⟨place.opened, block :: rest, ?_, Nat.zero_le _, Nat.le_refl _, beyond⟩
      rw [hb, Spot.next, List.append_assoc]
      rfl
  · rw [locals_block flat]
    refine List.pairwise_append.mpr ⟨?_, h.apart _, ?_⟩
    · refine List.pairwise_map.mpr (distinct.imp ?_)
      intro a b different same
      exact absurd same different
    · intro a ha b hb same
      obtain ⟨name, hn, rfl⟩ := List.mem_map.mp ha
      have inner := Spot.name_mem_of_locals hb
      rw [← same] at inner
      exact absurd inner (fresh name hn)

end

/-- A block that declares nothing itself. -/
theorem block {marks : List Mark} (h : Enclosed n marks) :
    Enclosed (n + 1) (.opening :: (marks ++ [Mark.closing])) := by
  have none : ∀ mark ∈ ([] : List Mark), mark.isFlat = true := by simp
  have declared (place : Spot) : place.locals (.opening :: (marks ++ [Mark.closing])) =
      (place.next .opening).locals marks := locals_block none place
  refine ⟨fun place => ?_, fun place => (opened_block none h place).le, fun place l hl => ?_,
    fun place => ?_⟩
  · have ends : place.after (.opening :: (marks ++ [Mark.closing])) = ⟨place.blocks, _⟩ :=
      after_block none h place
    rw [ends]
  · rw [declared] at hl
    obtain ⟨block, rest, hb, long, -, -⟩ := h.inside _ l hl
    refine ⟨place.opened, block :: rest, ?_, Nat.succ_le_succ long, Nat.le_refl _,
      opened_block none h place⟩
    rw [hb, Spot.next, List.append_assoc]
    rfl
  · rw [declared]
    exact h.apart _

theorem mono {m : Nat} {marks : List Mark} (h : Enclosed n marks) (hm : m ≤ n) : Enclosed m marks := by
  refine ⟨h.returns, h.forward, fun place l hl => ?_, h.apart⟩
  obtain ⟨block, rest, hb, long, bounds⟩ := h.inside place l hl
  exact ⟨block, rest, hb, Nat.le_trans hm long, bounds⟩

end Enclosed

namespace Passage

def marks (p : Passage) : List Mark :=
  p.texts.map Mark.of

theorem marks_line (text : String) : (line text).marks = [Mark.of text] := rfl

theorem marks_under (test statement : String) :
    (under test statement).marks = [Mark.of test, Mark.of statement] := rfl

theorem marks_comment (text : String) : (comment text).marks = [.other] := by
  show [Mark.of (commentText text)] = _
  rw [Mark.of_comment]

theorem marks_seq (first second : Passage) : (seq first second).marks = first.marks ++ second.marks := by
  rw [marks, texts_seq, List.map_append]
  rfl

theorem marks_block (header : Option String) (body : Passage) : (block header body).marks =
    header.toList.map Mark.of ++ Mark.opening :: (body.marks ++ [Mark.closing]) := by
  rw [marks, texts_block, List.map_append, List.map_cons, List.map_append]
  rfl

/-- A block under a header that declares nothing. -/
theorem enclosed_block {header : String} {body : Passage} {n : Nat} (hh : Mark.of header = .other)
    (h : Enclosed n body.marks) : Enclosed (n + 1) (block (some header) body).marks := by
  rw [marks_block]
  have top : (some header).toList.map Mark.of = [.other] := by simp [hh]
  rw [top]
  exact Enclosed.other.append h.block

end Passage

end GraphScript
