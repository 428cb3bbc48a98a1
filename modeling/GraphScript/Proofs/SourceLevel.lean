import GraphScript.Proofs.Sink
import Mathlib.Data.Nat.Bitwise

namespace GraphScript

namespace Text

/-- Numbers as the bits of one number, which says fast whether two sets meet. -/
def bitSet (numbers : List Nat) : Nat :=
  numbers.foldr (fun n rest => 2 ^ n ||| rest) 0

theorem testBit_bitSet {numbers : List Nat} {n : Nat} (h : n ∈ numbers) :
    (bitSet numbers).testBit n = true := by
  induction numbers with
  | nil => cases h
  | cons first rest ih =>
    rw [bitSet, List.foldr_cons, Nat.testBit_or, Bool.or_eq_true]
    rcases List.mem_cons.mp h with rfl | h
    · exact .inl (Nat.testBit_two_pow_self)
    · exact .inr (ih h)

/-- The bits that the entries of a table have together. -/
def tableBits (bits : Nat × Nat × Nat × Int → Nat) (table : List (Nat × Nat × Nat × Int)) : Nat :=
  table.foldr (fun entry rest => bits entry ||| rest) 0

theorem testBit_tableBits {bits : Nat × Nat × Nat × Int → Nat} {table : List (Nat × Nat × Nat × Int)}
    {entry : Nat × Nat × Nat × Int} (he : entry ∈ table) {n : Nat} (h : (bits entry).testBit n = true) :
    (tableBits bits table).testBit n = true := by
  induction table with
  | nil => cases he
  | cons first rest ih =>
    rw [tableBits, List.foldr_cons, Nat.testBit_or, Bool.or_eq_true]
    rcases List.mem_cons.mp he with rfl | he
    · exact .inl h
    · exact .inr (ih he)

/-- The characters of a run. -/
def CaseRun.members (run : CaseRun) : List Nat :=
  (List.range ((run.last - run.first) / run.step + 1)).map fun i => run.first + run.step * i

theorem CaseRun.mem_members {run : CaseRun} {n : Nat} (h : run.has n = true) : n ∈ run.members := by
  simp only [has, Bool.and_eq_true, decide_eq_true_eq, beq_iff_eq] at h
  obtain ⟨⟨low, high⟩, inside⟩ := h
  refine List.mem_map.mpr ⟨(n - run.first) / run.step, List.mem_range.mpr ?_, ?_⟩
  · exact Nat.lt_succ_of_le (Nat.div_le_div_right (by omega))
  · rw [Nat.mul_div_cancel' (Nat.dvd_of_mod_eq_zero inside)]
    omega

/-- The characters that have a small form of their own, the dotted capital among them. -/
def capitals : Nat :=
  tableBits (fun entry => bitSet (CaseRun.ofEntry entry).members) ((0x130, 0x130, 1, 0) :: lowerRuns)

/-- The characters that capitals are moved to. -/
def smallForms : Nat :=
  tableBits (fun entry => bitSet ((CaseRun.ofEntry entry).members.map fun n : Nat =>
    ((n : Int) + entry.2.2.2).toNat)) lowerRuns

/-- No small form is a capital. -/
theorem capitals_smallForms : capitals &&& smallForms = 0 := by
  decide +kernel

/-- A character that is its own small form wherever it stands. -/
def IsSmall (c : Char) : Prop :=
  ∀ before after, lowerChar before c after = [c]

theorem isSmall_of_toLower {c : Char} (base : c.toNat < 0x80) (own : c.toLower = c) : IsSmall c := by
  intro before after
  rw [lowerChar, if_pos base, own]

theorem isSmall_of_not_has {c : Char} (plain : c ≠ 'İ')
    (unmoved : ∀ entry ∈ lowerRuns, (CaseRun.ofEntry entry).has c.toNat = false) : IsSmall c := by
  by_cases base : c.toNat < 0x80
  · refine isSmall_of_toLower base ?_
    have letters := unmoved (0x41, 0x5a, 0x1, 0x20) (by decide)
    have other : ¬(c.val ≥ 'A'.val ∧ c.val ≤ 'Z'.val) := by
      rintro ⟨low, high⟩
      have low' : 65 ≤ c.toNat := low
      have high' : c.toNat ≤ 90 := high
      simp [CaseRun.has, CaseRun.ofEntry, low', high', Nat.mod_one] at letters
    exact dif_neg other
  · intro before after
    have still : shifted lowerRuns c = c := by
      have none : lowerRuns.find? (fun entry => (CaseRun.ofEntry entry).has c.toNat) = none :=
        List.find?_eq_none.mpr fun entry he => Bool.eq_false_iff.mp (unmoved entry he)
      rw [shifted, none]
    have sigma : c ≠ 'Σ' := by
      rintro rfl
      cases unmoved (0x3a3, 0x3ab, 0x1, 0x20) (by decide +kernel)
    rw [lowerChar, if_neg base, if_neg (by simpa using sigma), if_neg (by simpa using plain), still]

theorem isSmall_of_not_capital {c : Char} (apart : capitals.testBit c.toNat = false) : IsSmall c := by
  have missing {entry : Nat × Nat × Nat × Int} (he : entry ∈ (0x130, 0x130, 1, 0) :: lowerRuns) :
      (CaseRun.ofEntry entry).has c.toNat = false := by
    rw [Bool.eq_false_iff]
    intro has
    have bit : capitals.testBit c.toNat = true :=
      testBit_tableBits he (testBit_bitSet (CaseRun.mem_members has))
    rw [apart] at bit
    cases bit
  refine isSmall_of_not_has ?_ fun entry he => missing (List.mem_cons_of_mem _ he)
  rintro rfl
  cases missing List.mem_cons_self

theorem isSmall_shifted {c : Char} (plain : c ≠ 'İ') : IsSmall (shifted lowerRuns c) := by
  unfold shifted
  split
  next entry found =>
    have has : (CaseRun.ofEntry entry).has c.toNat = true := by simpa using List.find?_some found
    have small : smallForms.testBit ((c.toNat : Int) + entry.2.2.2).toNat = true :=
      testBit_tableBits (List.mem_of_find?_eq_some found)
        (testBit_bitSet (List.mem_map_of_mem (CaseRun.mem_members has)))
    have apart : capitals.testBit ((c.toNat : Int) + entry.2.2.2).toNat = false := by
      have both := congrArg (Nat.testBit · ((c.toNat : Int) + entry.2.2.2).toNat) capitals_smallForms
      simpa [Nat.testBit_and, small] using both
    by_cases known : ((c.toNat : Int) + entry.2.2.2).toNat.isValidChar
    · exact isSmall_of_not_capital (by rwa [Char.ofNat, dif_pos known])
    · rw [Char.ofNat, dif_neg known]
      exact isSmall_of_toLower (by decide) (by decide)
  next none =>
    exact isSmall_of_not_has plain fun entry he =>
      Bool.eq_false_iff.mpr (List.find?_eq_none.mp none entry he)

theorem isSmall_toLower {c : Char} (base : c.toNat < 0x80) : IsSmall c.toLower := by
  have all : ((List.range 0x80).all fun n => (Char.ofNat n).toLower.toNat < 0x80 &&
      (Char.ofNat n).toLower.toLower == (Char.ofNat n).toLower) = true := by decide
  have own := List.all_eq_true.mp all c.toNat (List.mem_range.mpr base)
  rw [Char.ofNat_toNat, Bool.and_eq_true, decide_eq_true_eq, beq_iff_eq] at own
  exact isSmall_of_toLower own.1 own.2

/-- The small forms that depend on what stands around are no capitals. -/
theorem sigmas_not_capital :
    (['σ', 'ς', Char.ofNat 0x307].all fun c => !capitals.testBit c.toNat) = true := by
  decide +kernel

/-- Whatever stands around a character, its small form is small. -/
theorem isSmall_of_mem_lowerChar {before after : List Char} {c d : Char}
    (h : d ∈ lowerChar before c after) : IsSmall d := by
  have special {d : Char} (h : d ∈ ['σ', 'ς', Char.ofNat 0x307]) : IsSmall d := by
    have apart := List.all_eq_true.mp sigmas_not_capital d h
    exact isSmall_of_not_capital (by simpa using apart)
  unfold lowerChar at h
  split at h
  next base =>
    cases List.mem_singleton.mp h
    exact isSmall_toLower base
  next =>
    split at h
    next =>
      split at h
      next =>
        cases List.mem_singleton.mp h
        exact special (by simp)
      next =>
        cases List.mem_singleton.mp h
        exact special (by simp)
    next =>
      split at h
      next =>
        rcases List.mem_cons.mp h with rfl | h
        · exact isSmall_of_toLower (by decide) (by decide)
        · cases List.mem_singleton.mp h
          exact special (by simp)
      next plain =>
        cases List.mem_singleton.mp h
        exact isSmall_shifted (by simpa using plain)

theorem isSmall_of_mem_lowerFrom {before cs : List Char} {d : Char} (h : d ∈ lowerFrom before cs) :
    IsSmall d := by
  induction cs generalizing before with
  | nil => cases h
  | cons c rest ih =>
    rcases List.mem_append.mp h with h | h
    · exact isSmall_of_mem_lowerChar h
    · exact ih h

theorem lowerFrom_of_isSmall {before cs : List Char} (small : ∀ c ∈ cs, IsSmall c) :
    lowerFrom before cs = cs := by
  induction cs generalizing before with
  | nil => rfl
  | cons c rest ih =>
    obtain ⟨first, others⟩ := List.forall_mem_cons.mp small
    rw [lowerFrom, first, ih others, List.singleton_append]

theorem lower_of_isSmall {text : String} (small : ∀ c ∈ text.toList, IsSmall c) : lower text = text := by
  rw [lower, lowerFrom_of_isSmall small, String.ofList_toList]

end Text

namespace Log

/-- The names under which a level can be given, with the level. -/
def Level.named : List (String × Level) :=
  [("DEBUG", debug), ("INFO", info), ("WARNING", warning), ("WARN", warning), ("ERROR", error),
   ("OFF", off)]

theorem Level.ofName_of_named {text : String} {level : Level} (h : (text, level) ∈ named) :
    ofName text = level := by
  simp only [named, List.mem_cons, List.not_mem_nil, or_false, Prod.mk.injEq] at h
  rcases h with ⟨rfl, rfl⟩ | ⟨rfl, rfl⟩ | ⟨rfl, rfl⟩ | ⟨rfl, rfl⟩ | ⟨rfl, rfl⟩ | ⟨rfl, rfl⟩ <;>
    decide +kernel

namespace Settings

/-- Everything in a key is small, and no point or slash is left. -/
theorem mem_sourceKey {name : String} {c : Char} (h : c ∈ (sourceKey name).toList) :
    Text.IsSmall c ∧ c ≠ '.' ∧ c ≠ '/' := by
  rw [sourceKey, String.toList_ofList] at h
  obtain ⟨d, hd, rfl⟩ := List.mem_map.mp h
  rw [Text.lower, String.toList_ofList] at hd
  split
  next => exact ⟨Text.isSmall_of_toLower (by decide) (by decide), by decide, by decide⟩
  next other => exact ⟨Text.isSmall_of_mem_lowerFrom hd, not_or.mp other⟩

/-- The names that are keys have no capitals, points and slashes. -/
theorem sourceKey_eq_self_iff {name : String} :
    sourceKey name = name ↔ Text.lower name = name ∧ '.' ∉ name.toList ∧ '/' ∉ name.toList := by
  constructor
  · intro own
    have kept {c : Char} (h : c ∈ name.toList) : Text.IsSmall c ∧ c ≠ '.' ∧ c ≠ '/' :=
      mem_sourceKey (own.symm ▸ h)
    exact ⟨Text.lower_of_isSmall fun c hc => (kept hc).1, fun h => (kept h).2.1 rfl,
      fun h => (kept h).2.2 rfl⟩
  · rintro ⟨small, point, slash⟩
    have same : name.toList.map (fun c => if c = '.' ∨ c = '/' then '_' else c) = name.toList := by
      refine List.map_congr_left (fun c hc => if_neg ?_) |>.trans (List.map_id _)
      rintro (rfl | rfl)
      · exact point hc
      · exact slash hc
    rw [sourceKey, small, same, String.ofList_toList]

theorem sourceKey_sourceKey (name : String) : sourceKey (sourceKey name) = sourceKey name := by
  exact sourceKey_eq_self_iff.mpr ⟨Text.lower_of_isSmall fun c hc => (mem_sourceKey hc).1,
    fun h => (mem_sourceKey h).2.1 rfl, fun h => (mem_sourceKey h).2.2 rfl⟩

theorem levelOf_configure (before : Settings) (level name text : String) (trace : Bool)
    (directory : Option String) (source : String) :
    (before.configure level [(name, text)] trace directory).levelOf source =
      if sourceKey source = name then .ofName text
      else { before with level := .ofName level }.levelOf source := by
  unfold levelOf configure
  dsimp only [List.foldl_cons, List.foldl_nil]
  rw [lookup_assign]
  split
  next => rfl
  next => rfl

/-- A level that is set for one source takes effect there exactly if the name that it is set under has
no capitals, points and slashes, or if the earlier levels with the new common one give the same. The
levels of all sources with other keys are what the earlier levels with the new common one give. -/
theorem configure_takes_effect_iff (before : Settings) (level name : String) {text : String}
    {own : Level} (named : (text, own) ∈ Level.named) (trace : Bool) (directory : Option String) :
    ((before.configure level [(name, text)] trace directory).levelOf name = own ↔
      (Text.lower name = name ∧ '.' ∉ name.toList ∧ '/' ∉ name.toList) ∨
        { before with level := .ofName level }.levelOf name = own) ∧
    ∀ source, sourceKey source ≠ sourceKey name →
      (before.configure level [(name, text)] trace directory).levelOf source =
        { before with level := .ofName level }.levelOf source := by
  constructor
  · rw [levelOf_configure, ← sourceKey_eq_self_iff]
    split
    next key => simp [key, Level.ofName_of_named named]
    next other => simp [other]
  · intro source apart
    rw [levelOf_configure, if_neg]
    -- what is stored under the key of another source would be this key
    intro same
    exact apart (by rw [← same, sourceKey_sourceKey])

theorem configure_takes_effect_iff_actions :
    ("WARN", Level.warning) ∈ Level.named ∧
      (initial.configure "OFF" [("actions", "WARN")] true none).levelOf "actions" = .warning ∧
      sourceKey "Traversal/Walk" ≠ sourceKey "actions" ∧
      (initial.configure "OFF" [("actions", "WARN")] true none).levelOf "Traversal/Walk" = .off := by
  have named : ("WARN", Level.warning) ∈ Level.named := by decide
  have apart : sourceKey "Traversal/Walk" ≠ sourceKey "actions" := by decide +kernel
  have ⟨own, others⟩ := configure_takes_effect_iff initial "OFF" "actions" named true none
  refine ⟨named, own.mpr (.inl (by decide +kernel)), apart, (others _ apart).trans ?_⟩
  decide +kernel

/-- The level of a source whose name has capitals and a point is stored where it does not look. -/
theorem configure_misses_capitals :
    ("DEBUG", Level.debug) ∈ Level.named ∧
      (initial.configure "ERROR" [("Compiler.Walk", "DEBUG")] false none).levelOf "Compiler.Walk" =
        .error := by
  decide +kernel

end Settings

end Log

end GraphScript
