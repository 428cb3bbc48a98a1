import GraphScript.Document
import GraphScript.Proofs.Bounded

namespace GraphScript

namespace Value

/-- Every integer in the value is below a bound. -/
def Within (bound : Nat) (value : Value) : Prop :=
  ∀ n ∈ value.integers, n.natAbs < bound

/-- If the value is a map, its keys are texts. -/
def HasTextKeys : Value → Prop
  | map entries => ∀ entry ∈ entries, ∃ s, entry.1 = text s
  | _ => True

theorem mem_itemIntegers {items : List Value} {n : Int} :
    n ∈ itemIntegers items ↔ ∃ item ∈ items, n ∈ item.integers := by
  induction items with
  | nil => simp [itemIntegers]
  | cons item rest ih => simp [itemIntegers, ih]

theorem mem_entryIntegers {entries : List (Value × Value)} {n : Int} :
    n ∈ entryIntegers entries ↔ ∃ entry ∈ entries, n ∈ entry.1.integers ∨ n ∈ entry.2.integers := by
  induction entries with
  | nil => simp [entryIntegers]
  | cons entry rest ih => simp [entryIntegers, ih, or_assoc]

theorem within_list {bound : Nat} {items : List Value} :
    (list items).Within bound ↔ ∀ item ∈ items, item.Within bound := by
  simp only [Within, integers, mem_itemIntegers]
  grind

theorem within_map {bound : Nat} {entries : List (Value × Value)} :
    (map entries).Within bound ↔
      ∀ entry ∈ entries, entry.1.Within bound ∧ entry.2.Within bound := by
  simp only [Within, integers, mem_entryIntegers]
  constructor
  · intro h entry he
    exact ⟨fun n hn => h n ⟨entry, he, .inl hn⟩, fun n hn => h n ⟨entry, he, .inr hn⟩⟩
  · rintro h n ⟨entry, he, hn | hn⟩
    · exact (h entry he).1 n hn
    · exact (h entry he).2 n hn

theorem within_of_none {bound : Nat} {value : Value} (h : value.integers = []) :
    value.Within bound := by
  intro n hn
  rw [h] at hn
  cases hn

mutual

theorem isWritable_iff_within (value : Value) :
    value.isWritable = true ↔ value.Within writableBound := by
  match value with
  | .int n => simp [isWritable, Within, integers]
  | .list items => rw [isWritable, within_list, areWritable_iff_within]
  | .map entries => rw [isWritable, within_map, entriesWritable_iff_within]
  | .null | .bool _ | .float _ | .text _ => exact iff_of_true rfl (within_of_none rfl)

theorem areWritable_iff_within (items : List Value) :
    areWritable items = true ↔ ∀ item ∈ items, item.Within writableBound := by
  match items with
  | [] => simp [areWritable]
  | item :: rest =>
    rw [areWritable, Bool.and_eq_true_iff, isWritable_iff_within item, areWritable_iff_within rest,
      List.forall_mem_cons]

theorem entriesWritable_iff_within (entries : List (Value × Value)) :
    entriesWritable entries = true ↔
      ∀ entry ∈ entries, entry.1.Within writableBound ∧ entry.2.Within writableBound := by
  match entries with
  | [] => simp [entriesWritable]
  | (key, value) :: rest =>
    rw [entriesWritable, Bool.and_eq_true_iff, Bool.and_eq_true_iff, isWritable_iff_within key,
      isWritable_iff_within value, entriesWritable_iff_within rest, List.forall_mem_cons]

end

theorem lt_writableBound (digits : Nat) {n : Nat} (h : n < 10 ^ digits)
    (few : digits ≤ Numeral.digitLimit) : n < writableBound := by
  have power {limit : Nat} (le : digits ≤ limit) : n < Nat.pow 10 limit :=
    h.trans_le (Nat.pow_le_pow_right (by decide) le)
  unfold writableBound
  exact power few

theorem isWritable_int {n : Int} (h : n.natAbs < writableBound) :
    (int n).isWritable = true := by
  rw [isWritable]
  exact decide_eq_true h

/-- Setting an entry takes keys and values from what is there and from the new entry only. -/
theorem mem_put {key value : Value} {entries : List (Value × Value)} {entry : Value × Value}
    (h : entry ∈ put key value entries) :
    (∃ e ∈ (key, value) :: entries, e.1 = entry.1) ∧
      ∃ e ∈ (key, value) :: entries, e.2 = entry.2 := by
  induction entries with
  | nil =>
    cases List.mem_singleton.mp h
    exact ⟨⟨_, List.mem_cons_self, rfl⟩, _, List.mem_cons_self, rfl⟩
  | cons first rest ih =>
    rw [put] at h
    split at h
    next =>
      rcases List.mem_cons.mp h with rfl | h
      · exact ⟨⟨first, by simp, rfl⟩, (key, value), by simp, rfl⟩
      · exact ⟨⟨entry, by simp [h], rfl⟩, entry, by simp [h], rfl⟩
    next =>
      rcases List.mem_cons.mp h with rfl | h
      · exact ⟨⟨first, by simp, rfl⟩, first, by simp, rfl⟩
      · obtain ⟨⟨e, he, key⟩, e', he', value⟩ := ih h
        exact ⟨⟨e, by grind, key⟩, e', by grind, value⟩

theorem mem_foldl_put {added entries : List (Value × Value)} {entry : Value × Value}
    (h : entry ∈ added.foldl (fun acc entry => put entry.1 entry.2 acc) entries) :
    (∃ e ∈ added ++ entries, e.1 = entry.1) ∧ ∃ e ∈ added ++ entries, e.2 = entry.2 := by
  induction added generalizing entries with
  | nil => exact ⟨⟨entry, h, rfl⟩, entry, h, rfl⟩
  | cons first rest ih =>
    obtain ⟨⟨e, he, key⟩, e', he', value⟩ := ih h
    have source {e : Value × Value} (he : e ∈ rest ++ put first.1 first.2 entries) :
        (∃ s ∈ first :: rest ++ entries, s.1 = e.1) ∧ ∃ s ∈ first :: rest ++ entries, s.2 = e.2 := by
      rcases List.mem_append.mp he with he | he
      · exact ⟨⟨e, by simp [he], rfl⟩, e, by simp [he], rfl⟩
      · obtain ⟨⟨s, hs, key⟩, s', hs', value⟩ := mem_put he
        exact ⟨⟨s, by grind, key⟩, s', by grind, value⟩
    obtain ⟨s, hs, same⟩ := (source he).1
    obtain ⟨s', hs', same'⟩ := (source he').2
    exact ⟨⟨s, hs, same.trans key⟩, s', hs', same'.trans value⟩

/-- Setting an entry drops no key. -/
theorem key_mem_put (key value : Value) {entries : List (Value × Value)} {entry : Value × Value}
    (h : entry ∈ entries) : ∃ e ∈ put key value entries, e.1 = entry.1 := by
  induction entries with
  | nil => cases h
  | cons first rest ih =>
    rw [put]
    split
    next =>
      rcases List.mem_cons.mp h with rfl | h
      · exact ⟨_, List.mem_cons_self, rfl⟩
      · exact ⟨entry, List.mem_cons_of_mem _ h, rfl⟩
    next =>
      rcases List.mem_cons.mp h with rfl | h
      · exact ⟨_, List.mem_cons_self, rfl⟩
      · obtain ⟨e, he, same⟩ := ih h
        exact ⟨e, List.mem_cons_of_mem _ he, same⟩

theorem key_mem_foldl_put (added : List (Value × Value)) {entries : List (Value × Value)}
    {entry : Value × Value} (h : entry ∈ entries) :
    ∃ e ∈ added.foldl (fun acc entry => put entry.1 entry.2 acc) entries, e.1 = entry.1 := by
  induction added generalizing entries entry with
  | nil => exact ⟨entry, h, rfl⟩
  | cons first rest ih =>
    obtain ⟨e, he, same⟩ := key_mem_put first.1 first.2 h
    obtain ⟨e', he', same'⟩ := ih he
    exact ⟨e', he', same'.trans same⟩

end Value

namespace Numeral

variable {digit : Char → Option Nat}

/-- The leading digits are characters of the text, and what follows is its rest. -/
theorem spanDigits_split (digit : Char → Option Nat) (cs : List Char) :
    ∃ ds, cs = ds ++ (spanDigits digit cs).2 ∧
      ds.map digit = (spanDigits digit cs).1.map some := by
  induction cs with
  | nil => exact ⟨[], rfl, rfl⟩
  | cons c rest ih =>
    rw [spanDigits]
    split
    next d found =>
      obtain ⟨ds, cut, values⟩ := ih
      refine ⟨c :: ds, congrArg (c :: ·) cut, ?_⟩
      rw [List.map_cons, List.map_cons, found, values]
    next => exact ⟨[], rfl, rfl⟩

theorem spanDigits_suffix (digit : Char → Option Nat) (cs : List Char) :
    (spanDigits digit cs).2 <:+ cs := by
  obtain ⟨ds, cut, -⟩ := spanDigits_split digit cs
  exact ⟨ds, cut.symm⟩

theorem spanSign_suffix (cs : List Char) : (spanSign cs).2 <:+ cs := by
  unfold spanSign
  split
  next => exact List.suffix_cons ..
  next => exact List.suffix_cons ..
  next => exact List.suffix_rfl

/-- The values of leading digits are values of digits. -/
theorem spanDigits_lt {bound : Nat} (each : ∀ c d, digit c = some d → d < bound) (cs : List Char) :
    ∀ d ∈ (spanDigits digit cs).1, d < bound := by
  obtain ⟨ds, -, values⟩ := spanDigits_split digit cs
  intro d hd
  have hd : some d ∈ ds.map digit := by
    rw [values]
    exact List.mem_map_of_mem hd
  obtain ⟨c, -, found⟩ := List.mem_map.mp hd
  exact each c d found

theorem asciiDigit?_lt (c : Char) (d : Nat) (h : asciiDigit? c = some d) : d < 10 := by
  unfold asciiDigit? at h
  split at h
  next bounds =>
    cases h
    have high : c.toNat ≤ 57 := bounds.2
    have zero : '0'.toNat = 48 := rfl
    omega
  next => cases h

theorem decimalValue?_lt (c : Char) (d : Nat) (h : Text.decimalValue? c = some d) : d < 10 := by
  obtain ⟨first, found, rfl⟩ := Option.map_eq_some_iff.mp h
  have bounds := List.find?_some found
  simp only [Bool.and_eq_true, decide_eq_true_eq] at bounds
  omega

theorem ofDigits_lt_pow {ds : List Nat} (h : ∀ d ∈ ds, d < 10) : ofDigits ds < 10 ^ ds.length := by
  have general (ds : List Nat) (h : ∀ d ∈ ds, d < 10) (n k : Nat) (hn : n < 10 ^ k) :
      ds.foldl (fun n d => 10 * n + d) n < 10 ^ (k + ds.length) := by
    induction ds generalizing n k with
    | nil => exact hn
    | cons d ds ih =>
      obtain ⟨small, others⟩ := List.forall_mem_cons.mp h
      have next : 10 * n + d < 10 ^ (k + 1) := by
        rw [pow_succ]
        omega
      have rest := ih others _ _ next
      rw [List.length_cons, Nat.add_comm ds.length 1, ← Nat.add_assoc]
      exact rest
  have whole := general ds h 0 0 (by decide)
  rw [Nat.zero_add] at whole
  exact whole

theorem natAbs_withSign (negative : Bool) (n : Nat) : (Binary64.withSign negative n).natAbs = n := by
  cases negative <;> simp [Binary64.withSign]

end Numeral

namespace Json

/-- No more than `limit` digits stand side by side. -/
def ShortRuns (limit : Nat) (cs : List Char) : Prop :=
  ∀ ds, ds <:+: cs → (∀ c ∈ ds, (Numeral.asciiDigit? c).isSome) → ds.length ≤ limit

theorem ShortRuns.of_suffix {limit : Nat} {cs rest : List Char} (h : ShortRuns limit cs)
    (part : rest <:+ cs) : ShortRuns limit rest :=
  fun ds inside digits => h ds (inside.trans part.isInfix) digits

theorem shortRuns_of_length {limit : Nat} {cs : List Char} (h : cs.length ≤ limit) :
    ShortRuns limit cs :=
  fun _ inside _ => inside.length_le.trans h

/-- A document with short integers. -/
structure Plain (limit : Nat) (value : Value) : Prop where
  within : value.Within (10 ^ limit)
  keys : value.HasTextKeys

variable {α β : Type} {good : α → Prop} {cs rest : List Char} {limit : Nat}

/-- Reading ends well, with something good and a rest of the text, or it ends for the form of the
text. -/
def Reads (good : α → Prop) (cs : List Char) : Except Failure (α × List Char) → Prop
  | .ok (a, rest) => good a ∧ rest <:+ cs
  | .error e => ∀ f, e.cause ≠ .fault f

theorem Reads.of_suffix {x : Except Failure (α × List Char)} (h : Reads good rest x)
    (part : rest <:+ cs) : Reads good cs x := by
  cases x with
  | error e => exact h
  | ok found => exact ⟨h.1, h.2.trans part⟩

theorem Reads.bind {good' : β → Prop} {x : Except Failure (α × List Char)}
    {f : α × List Char → Except Failure (β × List Char)} (h : Reads good cs x)
    (next : ∀ a rest, good a → rest <:+ cs → Reads good' cs (f (a, rest))) :
    Reads good' cs (x >>= f) := by
  cases x with
  | error e => exact h
  | ok found => exact next _ _ h.1 h.2

theorem skipGaps_suffix (cs : List Char) : skipGaps cs <:+ cs :=
  List.dropWhile_suffix _

theorem skipGaps_after {c : Char} (h : c :: rest <:+ cs) : skipGaps rest <:+ cs :=
  ((skipGaps_suffix rest).trans (List.suffix_cons c rest)).trans h

theorem lowHalf?_calm {e : Failure} (h : lowHalf? cs = .error e) : ∀ f, e.cause ≠ .fault f := by
  unfold lowHalf? at h
  intro f
  split at h
  next =>
    split at h
    next => cases h
    next =>
      split at h
      next => cases h
      next =>
        cases h
        exact Cause.noConfusion
  next => cases h

/-- One more character, and then what follows it. -/
theorem stringBody_onward {opening : List Char} {fuel : Nat} (c : Char) (part : rest <:+ cs)
    (h : Reads (fun _ => True) rest (stringBody opening fuel rest)) :
    Reads (fun _ => True) cs (do
      let (tail, after) ← stringBody opening fuel rest
      return (c :: tail, after)) :=
  (h.of_suffix part).bind fun _ _ _ part => ⟨trivial, part⟩

theorem stringBody_reads (opening : List Char) (fuel : Nat) (cs : List Char) :
    Reads (fun _ => True) cs (stringBody opening fuel cs) := by
  induction fuel generalizing cs with
  | zero => exact fun _ => Cause.noConfusion
  | succ fuel ih =>
    unfold stringBody
    split
    next => exact fun _ => Cause.noConfusion
    next rest => exact ⟨trivial, List.suffix_cons ..⟩
    next rest =>
      have inside : rest <:+ '\\' :: 'u' :: rest := ⟨['\\', 'u'], rfl⟩
      split
      next => exact fun _ => Cause.noConfusion
      next =>
        split
        next => exact fun _ => Cause.noConfusion
        next high found =>
          have further (count : Nat) : rest.drop count <:+ '\\' :: 'u' :: rest :=
            (List.drop_suffix count rest).trans inside
          dsimp only
          split
          next =>
            cases half : lowHalf? (rest.drop 4) with
            | error e => exact lowHalf?_calm half
            | ok low =>
              cases low with
              | some low =>
                refine stringBody_onward _ ?_ (ih _)
                rw [List.drop_drop]
                exact further _
              | none => exact stringBody_onward _ (further 4) (ih _)
          next => exact stringBody_onward _ (further 4) (ih _)
    next c rest _ =>
      split
      next => exact stringBody_onward _ ⟨['\\', c], rfl⟩ (ih _)
      next => exact fun _ => Cause.noConfusion
    next => exact fun _ => Cause.noConfusion
    next c rest _ _ _ _ =>
      split
      next => exact fun _ => Cause.noConfusion
      next => exact stringBody_onward _ (List.suffix_cons ..) (ih _)

theorem readString_reads (size : Nat) (cs : List Char) :
    Reads (fun _ => True) cs (readString size cs) :=
  (stringBody_reads ('"' :: cs) (size + 1) cs).bind fun _ _ _ part => ⟨trivial, part⟩

theorem fraction_suffix (cs : List Char) : (fraction cs).2 <:+ cs := by
  unfold fraction
  split
  next rest =>
    split
    next => exact List.suffix_rfl
    next => exact (Numeral.spanDigits_suffix _ rest).trans (List.suffix_cons ..)
  next => exact List.suffix_rfl

theorem exponent_suffix (cs : List Char) : (exponent cs).2 <:+ cs := by
  unfold exponent
  split
  next c rest =>
    split
    next =>
      dsimp only
      split
      next => exact List.suffix_rfl
      next after found =>
        have inside := Numeral.spanDigits_suffix Numeral.asciiDigit? (Numeral.spanSign rest).2
        rw [found] at inside
        exact (inside.trans (Numeral.spanSign_suffix rest)).trans (List.suffix_cons ..)
    next => exact List.suffix_rfl
  next => exact List.suffix_rfl

theorem wholePart_split {whole : List Nat} (h : wholePart cs = some (whole, rest)) :
    (∃ ds, cs = ds ++ rest ∧ ds.length = whole.length ∧
      ∀ c ∈ ds, (Numeral.asciiDigit? c).isSome) ∧ ∀ d ∈ whole, d < 10 := by
  unfold wholePart at h
  split at h
  next =>
    cases h
    refine ⟨⟨['0'], rfl, rfl, fun c hc => ?_⟩, fun d hd => ?_⟩
    · cases List.mem_singleton.mp hc
      rfl
    · cases List.mem_singleton.mp hd
      decide
  next =>
    split at h
    next => cases h
    next =>
      have found := Option.some.inj h
      obtain ⟨ds, cut, values⟩ := Numeral.spanDigits_split Numeral.asciiDigit? cs
      have small := Numeral.spanDigits_lt Numeral.asciiDigit?_lt cs
      rw [found] at cut values small
      refine ⟨⟨ds, cut, ?_, ?_⟩, small⟩
      · simpa using congrArg List.length values
      · intro c hc
        have hc : Numeral.asciiDigit? c ∈ whole.map some := by
          rw [← values]
          exact List.mem_map_of_mem hc
        obtain ⟨d, -, found⟩ := List.mem_map.mp hc
        rw [← found]
        rfl

theorem readNumber_reads (room : limit ≤ Numeral.digitLimit) (short : ShortRuns limit cs) :
    Reads (Plain limit) cs (readNumber cs) := by
  have float (x : Binary64) : Plain limit (.float x) := ⟨Value.within_of_none rfl, trivial⟩
  unfold readNumber
  dsimp only
  split
  next => exact fun _ => Cause.noConfusion
  next whole rest found =>
    obtain ⟨⟨ds, cut, count, digits⟩, small⟩ := wholePart_split found
    have body : ds ++ rest <:+ cs := by
      rw [← cut]
      split
      next => exact List.suffix_cons ..
      next => exact List.suffix_rfl
    have inside : rest <:+ cs := (List.suffix_append ds rest).trans body
    have after : (exponent (fraction rest).2).2 <:+ cs :=
      ((exponent_suffix _).trans (fraction_suffix rest)).trans inside
    have few : whole.length ≤ limit := by
      rw [← count]
      exact short ds ((List.prefix_append ds rest).isInfix.trans body.isInfix) digits
    split
    next =>
      rw [if_neg (by omega)]
      refine ⟨⟨?_, trivial⟩, after⟩
      intro n hn
      cases List.mem_singleton.mp hn
      rw [Numeral.natAbs_withSign]
      exact (Numeral.ofDigits_lt_pow small).trans_le (Nat.pow_le_pow_right (by decide) few)
    next => exact ⟨float _, after⟩

theorem after?_suffix {word : List Char} (h : after? word cs = some rest) : rest <:+ cs := by
  induction word generalizing cs with
  | nil =>
    cases h
    exact List.suffix_rfl
  | cons w word ih =>
    cases cs with
    | nil => cases h
    | cons c cs =>
      rw [after?] at h
      split at h
      next => exact (ih h).trans (List.suffix_cons ..)
      next => cases h

theorem wordValues_plain : ∀ entry ∈ wordValues, Plain limit entry.2 := by
  intro entry known
  have none : entry.2.integers = [] ∧ entry.2.HasTextKeys := by
    simp only [wordValues, List.mem_cons, List.not_mem_nil, or_false] at known
    rcases known with rfl | rfl | rfl | rfl | rfl | rfl
    all_goals exact ⟨rfl, trivial⟩
  exact ⟨Value.within_of_none none.1, none.2⟩

theorem readWord_reads (room : limit ≤ Numeral.digitLimit) (short : ShortRuns limit cs) :
    Reads (Plain limit) cs (readWord cs) := by
  unfold readWord
  dsimp only
  split
  next result found =>
    obtain ⟨entry, known, front⟩ := List.exists_of_findSome?_eq_some found
    obtain ⟨rest, cut, rfl⟩ := Option.map_eq_some_iff.mp front
    exact ⟨wordValues_plain entry known, after?_suffix cut⟩
  next => exact readNumber_reads room short

theorem plain_list {items : List Value} (h : ∀ item ∈ items, Plain limit item) :
    Plain limit (.list items) :=
  ⟨Value.within_list.mpr fun item hi => (h item hi).within, trivial⟩

/-- An entry of a map: a text and a document. -/
def PlainEntry (limit : Nat) (entry : Value × Value) : Prop :=
  (∃ s, entry.1 = .text s) ∧ Plain limit entry.2

theorem plain_ofEntries {entries : List (Value × Value)}
    (h : ∀ entry ∈ entries, PlainEntry limit entry) : Plain limit (.ofEntries entries) := by
  have key (entry : Value × Value)
      (he : entry ∈ entries.foldl (fun acc entry => Value.put entry.1 entry.2 acc) []) :
      ∃ s, entry.1 = .text s := by
    obtain ⟨⟨e, he, same⟩, -⟩ := Value.mem_foldl_put he
    rw [List.append_nil] at he
    rw [← same]
    exact (h e he).1
  refine ⟨Value.within_map.mpr fun entry he => ⟨?_, ?_⟩, key⟩
  · obtain ⟨s, text⟩ := key entry he
    rw [text]
    exact Value.within_of_none rfl
  · obtain ⟨-, e, he, same⟩ := Value.mem_foldl_put he
    rw [List.append_nil] at he
    rw [← same]
    exact (h e he).2.within

section

variable {size fuel : Nat}

theorem readValue_step (room : limit ≤ Numeral.digitLimit)
    (items : ∀ cs, ShortRuns limit cs →
      Reads (fun items => ∀ item ∈ items, Plain limit item) cs (readItems size fuel cs))
    (entries : ∀ cs, ShortRuns limit cs →
      Reads (fun entries => ∀ entry ∈ entries, PlainEntry limit entry) cs (readEntries size fuel cs))
    (short : ShortRuns limit cs) : Reads (Plain limit) cs (readValue size (fuel + 1) cs) := by
  unfold readValue
  split
  next rest =>
    refine ((readString_reads size rest).of_suffix (List.suffix_cons ..)).bind fun s rest _ part => ?_
    exact ⟨⟨Value.within_of_none rfl, trivial⟩, part⟩
  next rest =>
    have gap : skipGaps rest <:+ '[' :: rest := skipGaps_after List.suffix_rfl
    split
    next after closed =>
      rw [closed] at gap
      exact ⟨plain_list (by simp), (List.suffix_cons ..).trans gap⟩
    next =>
      refine ((items _ (short.of_suffix gap)).of_suffix gap).bind fun found rest all part => ?_
      exact ⟨plain_list all, part⟩
  next rest =>
    have gap : skipGaps rest <:+ '\x7b' :: rest := skipGaps_after List.suffix_rfl
    split
    next after closed =>
      rw [closed] at gap
      exact ⟨⟨Value.within_of_none rfl, fun _ he => by cases he⟩, (List.suffix_cons ..).trans gap⟩
    next =>
      refine ((entries _ (short.of_suffix gap)).of_suffix gap).bind fun found rest all part => ?_
      exact ⟨plain_ofEntries all, part⟩
  next => exact readWord_reads room short

theorem readItems_step
    (value : ∀ cs, ShortRuns limit cs → Reads (Plain limit) cs (readValue size fuel cs))
    (items : ∀ cs, ShortRuns limit cs →
      Reads (fun items => ∀ item ∈ items, Plain limit item) cs (readItems size fuel cs))
    (short : ShortRuns limit cs) :
    Reads (fun items => ∀ item ∈ items, Plain limit item) cs (readItems size (fuel + 1) cs) := by
  unfold readItems
  refine (value cs short).bind fun item rest plain part => ?_
  have gap := (skipGaps_suffix rest).trans part
  dsimp only
  split
  next after closed =>
    rw [closed] at gap
    exact ⟨by simpa using plain, (List.suffix_cons ..).trans gap⟩
  next after comma =>
    rw [comma] at gap
    have onward := skipGaps_after gap
    refine ((items _ (short.of_suffix onward)).of_suffix onward).bind fun more rest all part => ?_
    exact ⟨List.forall_mem_cons.mpr ⟨plain, all⟩, part⟩
  next => exact fun _ => Cause.noConfusion

theorem readEntries_step
    (value : ∀ cs, ShortRuns limit cs → Reads (Plain limit) cs (readValue size fuel cs))
    (entries : ∀ cs, ShortRuns limit cs →
      Reads (fun entries => ∀ entry ∈ entries, PlainEntry limit entry) cs (readEntries size fuel cs))
    (short : ShortRuns limit cs) :
    Reads (fun entries => ∀ entry ∈ entries, PlainEntry limit entry) cs
      (readEntries size (fuel + 1) cs) := by
  unfold readEntries
  split
  next rest =>
    refine ((readString_reads size rest).of_suffix (List.suffix_cons ..)).bind fun key rest _ part => ?_
    have gap := (skipGaps_suffix rest).trans part
    dsimp only
    split
    next after colon =>
      rw [colon] at gap
      have onward := skipGaps_after gap
      refine ((value _ (short.of_suffix onward)).of_suffix onward).bind fun item rest plain part => ?_
      have entry : PlainEntry limit (.text key, item) := ⟨⟨key, rfl⟩, plain⟩
      have gap := (skipGaps_suffix rest).trans part
      dsimp only
      split
      next after closed =>
        rw [closed] at gap
        exact ⟨by simpa using entry, (List.suffix_cons ..).trans gap⟩
      next after comma =>
        rw [comma] at gap
        have onward := skipGaps_after gap
        refine ((entries _ (short.of_suffix onward)).of_suffix onward).bind fun more rest all part => ?_
        exact ⟨List.forall_mem_cons.mpr ⟨entry, all⟩, part⟩
      next => exact fun _ => Cause.noConfusion
    next => exact fun _ => Cause.noConfusion
  next => exact fun _ => Cause.noConfusion

/-- The three readers call one another with less fuel. -/
theorem readers_read (size : Nat) (room : limit ≤ Numeral.digitLimit) (fuel : Nat) :
    (∀ cs, ShortRuns limit cs → Reads (Plain limit) cs (readValue size fuel cs)) ∧
    (∀ cs, ShortRuns limit cs →
      Reads (fun items => ∀ item ∈ items, Plain limit item) cs (readItems size fuel cs)) ∧
    ∀ cs, ShortRuns limit cs →
      Reads (fun entries => ∀ entry ∈ entries, PlainEntry limit entry) cs
        (readEntries size fuel cs) := by
  induction fuel with
  | zero =>
    refine ⟨fun cs _ => ?_, fun cs _ => ?_, fun cs _ => ?_⟩
    all_goals exact fun _ => Cause.noConfusion
  | succ fuel ih =>
    obtain ⟨value, items, entries⟩ := ih
    exact ⟨fun cs => readValue_step room items entries, fun cs => readItems_step value items,
      fun cs => readEntries_step value entries⟩

end

theorem readChars_cases (room : limit ≤ Numeral.digitLimit) (short : ShortRuns limit cs) :
    (∃ value, readChars cs = .ok value ∧ Plain limit value) ∨
      ∃ e, readChars cs = .error e ∧ ∀ f, e.cause ≠ .fault f := by
  unfold readChars
  split
  next => exact .inr ⟨_, rfl, fun _ => Cause.noConfusion⟩
  next =>
    have reads := (readers_read cs.length room (2 * cs.length + 2)).1 (skipGaps cs)
      (short.of_suffix (skipGaps_suffix cs))
    generalize readValue cs.length (2 * cs.length + 2) (skipGaps cs) = x at reads
    match x, reads with
    | .error e, calm => exact .inr ⟨e, rfl, calm⟩
    | .ok (value, rest), ⟨plain, _⟩ =>
      dsimp only [bind, Except.bind]
      split
      next => exact .inl ⟨value, rfl, plain⟩
      next => exact .inr ⟨_, rfl, fun _ => Cause.noConfusion⟩

end Json

variable {yaml : Yaml.Library} {limit : Nat} {text : String} {given : Option Format}

/-- In object notation reading gives a plain document, or a complaint about the form of the text. -/
theorem loadDocumentBy_json (room : limit ≤ Numeral.digitLimit) (short : Json.ShortRuns limit text.toList)
    (json : given.getD (.detect text) = .json) :
    (∃ document, loadDocumentBy yaml given text = .ok document ∧ Json.Plain limit document) ∨
      ∃ e, loadDocumentBy yaml given text = .error (.json e) := by
  rw [loadDocumentBy, json]
  dsimp only
  rw [Json.read]
  dsimp only
  rcases Json.readChars_cases room short with ⟨document, read, plain⟩ | ⟨e, read, calm⟩
  · rw [read]
    exact .inl ⟨document, rfl, plain⟩
  · rw [read]
    right
    dsimp only [Except.mapError, LoadIssue.ofJson]
    split
    next f stop => exact absurd stop (calm f)
    next => exact ⟨_, rfl⟩

end GraphScript
