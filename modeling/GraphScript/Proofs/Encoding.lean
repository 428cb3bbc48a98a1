import GraphScript.Text.Utf8

namespace GraphScript.Text.Utf8

theorem toList_eq_data (bytes : ByteArray) : bytes.toList = bytes.data.toList := by
  have rest (left i : Nat) (taken : List UInt8) (count : bytes.size = i + left) :
      ByteArray.toList.loop bytes i taken = taken.reverse ++ bytes.data.toList.drop i := by
    have length : bytes.data.toList.length = i + left := count
    induction left generalizing i taken with
    | zero =>
      rw [ByteArray.toList.loop, if_neg (by omega), List.drop_of_length_le (by omega),
        List.append_nil]
    | succ left ih =>
      have inside : i < bytes.data.size := by
        rw [← Array.length_toList]
        omega
      have here : bytes.get! i = bytes.data.toList[i] := by
        rw [ByteArray.get!, getElem!_pos bytes.data i inside, Array.getElem_toList]
      rw [ByteArray.toList.loop, if_pos (by omega), ih (i + 1) _ (by omega) (by omega),
        List.reverse_cons, List.append_assoc, List.singleton_append, here,
        ← List.drop_eq_getElem_cons]
  have whole := rest bytes.size 0 [] (by omega)
  rw [ByteArray.toList, whole]
  rfl

theorem encode_ofList (chars : List Char) :
    encode (String.ofList chars) = chars.flatMap String.utf8EncodeChar := by
  rw [encode, toList_eq_data]
  exact List.toList_data_toByteArray

/-- The bytes that a character still takes: the next one is in a range of its own, the others are in
the common one. -/
def Continues (low high : Nat) : Nat → List UInt8 → Prop
  | 0, bytes => bytes = []
  | owed + 1, bytes =>
    ∃ b rest, bytes = b :: rest ∧ low ≤ b.toNat ∧ b.toNat ≤ high ∧ Continues 0x80 0xBF owed rest

/-- The code that bytes add up to, six bits from each. -/
def gathered (bits : Nat) (bytes : List UInt8) : Nat :=
  bytes.foldl (fun n b => n * 64 + (b.toNat - 0x80)) bits

theorem gathered_cons (bits : Nat) (b : UInt8) (tail : List UInt8) :
    gathered bits (b :: tail) = gathered (bits * 64 + (b.toNat - 0x80)) tail := by
  simp only [gathered, List.foldl_cons]

/-- A character that was begun is decoded if the bytes go on with it. -/
theorem decodeFrom_some_iff {chars out : List Char} {position : Nat} {p : Partial}
    {bytes : List UInt8} (owes : 0 < p.owed) :
    decodeFrom chars position (some p) bytes = .ok out ↔
      ∃ tail rest, bytes = tail ++ rest ∧ Continues p.low p.high p.owed tail ∧
        decodeFrom (Char.ofNat (gathered p.bits tail) :: chars) (position + tail.length) none rest =
          .ok out := by
  obtain ⟨owed, count⟩ : ∃ owed, p.owed = owed + 1 := ⟨p.owed - 1, by omega⟩
  rw [count]
  induction owed generalizing p position bytes with
  | zero =>
    constructor
    · intro h
      cases bytes with
      | nil => cases h
      | cons b rest =>
        rw [decodeFrom] at h
        split at h
        next fits =>
          exact ⟨[b], rest, rfl, ⟨b, [], rfl, fits.1, fits.2, rfl⟩, h⟩
        next => cases h
    · rintro ⟨_, rest, rfl, ⟨b, _, rfl, low, high, rfl⟩, h⟩
      rw [List.cons_append, decodeFrom, if_pos ⟨low, high⟩]
      dsimp only
      rw [if_pos count]
      exact h
  | succ owed ih =>
    have more : p.owed ≠ 1 := by omega
    constructor
    · intro h
      cases bytes with
      | nil => cases h
      | cons b rest =>
        rw [decodeFrom] at h
        split at h
        next fits =>
          obtain ⟨tail, rest, rfl, others, h⟩ := (ih (by dsimp only; omega) (by dsimp only; omega)).mp h
          refine ⟨b :: tail, rest, rfl, ⟨b, tail, rfl, fits.1, fits.2, others⟩, ?_⟩
          rw [List.length_cons, Nat.add_comm tail.length, ← Nat.add_assoc, gathered_cons]
          exact h
        next => cases h
    · rintro ⟨_, rest, rfl, ⟨b, tail, rfl, low, high, others⟩, h⟩
      rw [List.cons_append, decodeFrom, if_pos ⟨low, high⟩]
      dsimp only
      rw [if_neg more]
      refine (ih (by dsimp only; omega) (by dsimp only; omega)).mpr ⟨tail, rest, rfl, others, ?_⟩
      rw [List.length_cons, Nat.add_comm tail.length, ← Nat.add_assoc, gathered_cons] at h
      exact h

theorem val_ofNat {n : Nat} (valid : n < 0xD800 ∨ 0xDFFF < n ∧ n < 0x110000) :
    (Char.ofNat n).val.toNat = n := by
  have known : n.isValidChar := valid
  rw [Char.ofNat, dif_pos known]
  rfl

theorem byte_eq {n : Nat} {b : UInt8} (h : n = b.toNat) : UInt8.ofNat n = b := by
  rw [h, UInt8.ofNat_toNat]

/-- The first byte tells how many more there are and gives the first bits. The second byte has a range
of its own where the code would otherwise be too small, a surrogate or too large. -/
theorem begin?_eq (position : Nat) (b : UInt8) :
    begin? position b =
      if 0xC2 ≤ b.toNat ∧ b.toNat ≤ 0xDF then
        some ⟨position, b, 1, 1, 0x80, 0xBF, b.toNat - 0xC0⟩
      else if 0xE0 ≤ b.toNat ∧ b.toNat ≤ 0xEF then
        some ⟨position, b, 1, 2, if b.toNat = 0xE0 then 0xA0 else 0x80,
          if b.toNat = 0xED then 0x9F else 0xBF, b.toNat - 0xE0⟩
      else if 0xF0 ≤ b.toNat ∧ b.toNat ≤ 0xF4 then
        some ⟨position, b, 1, 3, if b.toNat = 0xF0 then 0x90 else 0x80,
          if b.toNat = 0xF4 then 0x8F else 0xBF, b.toNat - 0xF0⟩
      else none := by
  unfold begin?
  dsimp only
  generalize b.toNat = n
  grind

theorem ite_le_iff {p : Prop} [Decidable p] {m n k : Nat} (h : n ≤ m) :
    (if p then m else n) ≤ k ↔ n ≤ k ∧ (p → m ≤ k) := by
  by_cases holds : p
  · rw [if_pos holds]
    exact ⟨fun le => ⟨Nat.le_trans h le, fun _ => le⟩, fun le => le.2 holds⟩
  · rw [if_neg holds]
    exact ⟨fun le => ⟨le, fun is => absurd is holds⟩, And.left⟩

theorem le_ite_iff {p : Prop} [Decidable p] {m n k : Nat} (h : m ≤ n) :
    k ≤ (if p then m else n) ↔ k ≤ n ∧ (p → k ≤ m) := by
  by_cases holds : p
  · rw [if_pos holds]
    exact ⟨fun le => ⟨Nat.le_trans le h, fun _ => le⟩, fun le => le.2 holds⟩
  · rw [if_neg holds]
    exact ⟨fun le => ⟨le, fun is => absurd is holds⟩, And.left⟩

/-- What begins with a byte and goes on as it has to is the encoding of the code that it gathers. -/
theorem encodeChar_of_begins {position : Nat} {b : UInt8} {p : Partial} {tail : List UInt8}
    (begun : begin? position b = some p) (goes : Continues p.low p.high p.owed tail) :
    String.utf8EncodeChar (Char.ofNat (gathered p.bits tail)) = b :: tail := by
  rw [begin?_eq] at begun
  unfold String.utf8EncodeChar
  dsimp only
  split at begun
  next lead =>
    cases begun
    obtain ⟨c, _, rfl, clow, chigh, rfl⟩ := goes
    dsimp only at clow chigh
    have code : gathered (b.toNat - 0xC0) [c] = (b.toNat - 0xC0) * 64 + (c.toNat - 0x80) := by
      simp only [gathered, List.foldl_cons, List.foldl_nil]
    dsimp only
    rw [val_ofNat (by omega), if_neg (by omega), if_pos (by omega), byte_eq (b := b) (by omega),
      byte_eq (b := c) (by omega)]
  split at begun
  next lead =>
    cases begun
    obtain ⟨c, _, rfl, clow, chigh, d, _, rfl, dlow, dhigh, rfl⟩ := goes
    rw [ite_le_iff (by decide)] at clow
    rw [le_ite_iff (by decide)] at chigh
    have code : gathered (b.toNat - 0xE0) [c, d] =
        ((b.toNat - 0xE0) * 64 + (c.toNat - 0x80)) * 64 + (d.toNat - 0x80) := by
      simp only [gathered, List.foldl_cons, List.foldl_nil]
    dsimp only
    rw [val_ofNat (by omega), if_neg (by omega), if_neg (by omega), if_pos (by omega),
      byte_eq (b := b) (by omega), byte_eq (b := c) (by omega), byte_eq (b := d) (by omega)]
  split at begun
  next lead =>
    cases begun
    obtain ⟨c, _, rfl, clow, chigh, d, _, rfl, dlow, dhigh, e, _, rfl, elow, ehigh, rfl⟩ := goes
    rw [ite_le_iff (by decide)] at clow
    rw [le_ite_iff (by decide)] at chigh
    have code : gathered (b.toNat - 0xF0) [c, d, e] =
        (((b.toNat - 0xF0) * 64 + (c.toNat - 0x80)) * 64 + (d.toNat - 0x80)) * 64 +
          (e.toNat - 0x80) := by
      simp only [gathered, List.foldl_cons, List.foldl_nil]
    dsimp only
    rw [val_ofNat (by omega), if_neg (by omega), if_neg (by omega), if_neg (by omega),
      byte_eq (b := b) (by omega), byte_eq (b := c) (by omega), byte_eq (b := d) (by omega),
      byte_eq (b := e) (by omega)]
  next => cases begun

/-- The encoding of a character of several bytes begins and goes on as it has to. -/
theorem begins_of_encodeChar (position : Nat) {b : UInt8} {c : Char} {tail : List UInt8}
    (long : 0x80 ≤ b.toNat) (h : String.utf8EncodeChar c = b :: tail) :
    ∃ p, begin? position b = some p ∧ Continues p.low p.high p.owed tail ∧
      Char.ofNat (gathered p.bits tail) = c := by
  have valid : c.val.toNat < 0xD800 ∨ 0xDFFF < c.val.toNat ∧ c.val.toNat < 0x110000 := c.valid
  have own {n : Nat} (code : n = c.val.toNat) : Char.ofNat n = c := by
    rw [code]
    exact Char.ofNat_toNat c
  rw [begin?_eq]
  unfold String.utf8EncodeChar at h
  dsimp only at h
  generalize c.val.toNat = v at *
  split at h
  next =>
    cases h
    rw [UInt8.toNat_ofNat_of_lt' (by unfold UInt8.size; omega)] at long
    omega
  split at h
  next =>
    cases h
    have first := UInt8.toNat_ofNat_of_lt' (n := v / 64 % 32 + 0xC0) (by unfold UInt8.size; omega)
    have second := UInt8.toNat_ofNat_of_lt' (n := v % 64 + 0x80) (by unfold UInt8.size; omega)
    rw [if_pos (by omega)]
    refine ⟨_, rfl, ⟨_, _, rfl, ?_, ?_, rfl⟩, own ?_⟩
    all_goals (try simp only [gathered, List.foldl_cons, List.foldl_nil]); omega
  split at h
  next =>
    cases h
    have first := UInt8.toNat_ofNat_of_lt' (n := v / 4096 % 16 + 0xE0) (by unfold UInt8.size; omega)
    have second := UInt8.toNat_ofNat_of_lt' (n := v / 64 % 64 + 0x80) (by unfold UInt8.size; omega)
    have third := UInt8.toNat_ofNat_of_lt' (n := v % 64 + 0x80) (by unfold UInt8.size; omega)
    rw [if_neg (by omega), if_pos (by omega)]
    refine ⟨_, rfl, ⟨_, _, rfl, (ite_le_iff (by decide)).mpr ?_, (le_ite_iff (by decide)).mpr ?_,
      _, _, rfl, ?_, ?_, rfl⟩, own ?_⟩
    all_goals (try simp only [gathered, List.foldl_cons, List.foldl_nil]); omega
  next =>
    cases h
    have first := UInt8.toNat_ofNat_of_lt' (n := v / 262144 % 8 + 0xF0) (by unfold UInt8.size; omega)
    have second := UInt8.toNat_ofNat_of_lt' (n := v / 4096 % 64 + 0x80) (by unfold UInt8.size; omega)
    have third := UInt8.toNat_ofNat_of_lt' (n := v / 64 % 64 + 0x80) (by unfold UInt8.size; omega)
    have fourth := UInt8.toNat_ofNat_of_lt' (n := v % 64 + 0x80) (by unfold UInt8.size; omega)
    rw [if_neg (by omega), if_neg (by omega), if_pos (by omega)]
    refine ⟨_, rfl, ⟨_, _, rfl, (ite_le_iff (by decide)).mpr ?_, (le_ite_iff (by decide)).mpr ?_,
      _, _, rfl, ?_, ?_, _, _, rfl, ?_, ?_, rfl⟩, own ?_⟩
    all_goals (try simp only [gathered, List.foldl_cons, List.foldl_nil]); omega

/-- A byte below the others is a character by itself. -/
theorem encodeChar_eq_short_iff {b : UInt8} {c : Char} {tail : List UInt8} (short : b.toNat < 0x80) :
    String.utf8EncodeChar c = b :: tail ↔ Char.ofNat b.toNat = c ∧ tail = [] := by
  constructor
  · intro h
    unfold String.utf8EncodeChar at h
    dsimp only at h
    split at h
    next small =>
      cases h
      rw [UInt8.toNat_ofNat_of_lt' (by unfold UInt8.size; omega)]
      exact ⟨Char.ofNat_toNat c, rfl⟩
    -- the first byte of a longer encoding has its high bits set
    all_goals
      (repeat' split at h)
      all_goals
        rw [← (List.cons.inj h).1, UInt8.toNat_ofNat_of_lt' (by unfold UInt8.size; omega)] at short
        omega
  · rintro ⟨rfl, rfl⟩
    unfold String.utf8EncodeChar
    dsimp only
    rw [val_ofNat (by omega), if_pos (by omega), byte_eq rfl]

theorem owed_of_begin? {position : Nat} {b : UInt8} {p : Partial} (h : begin? position b = some p) :
    0 < p.owed := by
  rw [begin?_eq] at h
  repeat' split at h
  all_goals cases h
  all_goals exact Nat.succ_pos _

/-- Decoding goes on after a whole character, and there has to be one. -/
theorem decodeFrom_none_iff {chars out : List Char} {position : Nat} {bytes : List UInt8}
    (more : bytes ≠ []) :
    decodeFrom chars position none bytes = .ok out ↔
      ∃ c rest, bytes = String.utf8EncodeChar c ++ rest ∧
        decodeFrom (c :: chars) (position + (String.utf8EncodeChar c).length) none rest = .ok out := by
  obtain ⟨b, rest, rfl⟩ := List.exists_cons_of_ne_nil more
  rw [decodeFrom]
  by_cases short : b.toNat < 0x80
  · rw [if_pos short]
    constructor
    · intro h
      have one := (encodeChar_eq_short_iff short).mpr ⟨rfl, rfl⟩
      refine ⟨Char.ofNat b.toNat, rest, by rw [one]; rfl, ?_⟩
      rw [one]
      exact h
    · rintro ⟨c, rest', cut, h⟩
      cases code : String.utf8EncodeChar c with
      | nil => exact absurd code (String.utf8EncodeChar_ne_nil)
      | cons b' tail =>
        rw [code] at cut h
        obtain ⟨rfl, rfl⟩ := List.cons.inj cut
        obtain ⟨rfl, rfl⟩ := (encodeChar_eq_short_iff short).mp code
        exact h
  · rw [if_neg short]
    constructor
    · intro h
      split at h
      next p begun =>
        obtain ⟨tail, rest, rfl, goes, h⟩ := (decodeFrom_some_iff (owed_of_begin? begun)).mp h
        have code := encodeChar_of_begins begun goes
        refine ⟨_, rest, by rw [code]; rfl, ?_⟩
        rw [code, List.length_cons, Nat.add_comm tail.length, ← Nat.add_assoc]
        exact h
      next => cases h
    · rintro ⟨c, rest', cut, h⟩
      cases code : String.utf8EncodeChar c with
      | nil => exact absurd code (String.utf8EncodeChar_ne_nil)
      | cons b' tail =>
        rw [code] at cut h
        obtain ⟨rfl, rfl⟩ := List.cons.inj cut
        obtain ⟨p, begun, goes, rfl⟩ := begins_of_encodeChar position (Nat.le_of_not_lt short) code
        rw [begun]
        refine (decodeFrom_some_iff (owed_of_begin? begun)).mpr ⟨tail, rest', rfl, goes, ?_⟩
        rw [List.length_cons, Nat.add_comm tail.length, ← Nat.add_assoc] at h
        exact h

theorem decodeFrom_eq_ok_iff {chars out : List Char} {position : Nat} {bytes : List UInt8} :
    decodeFrom chars position none bytes = .ok out ↔
      ∃ more, bytes = more.flatMap String.utf8EncodeChar ∧ out = chars.reverse ++ more := by
  constructor
  · intro h
    -- every character takes some of the bytes
    generalize length : bytes.length = n
    induction n using Nat.strongRecOn generalizing chars position bytes with
    | ind n ih =>
      by_cases nothing : bytes = []
      · subst nothing
        cases h
        exact ⟨[], rfl, (List.append_nil _).symm⟩
      · obtain ⟨c, rest, rfl, others⟩ := (decodeFrom_none_iff nothing).mp h
        have taken := List.length_pos_iff.mpr (String.utf8EncodeChar_ne_nil (c := c))
        rw [List.length_append] at length
        obtain ⟨more, rfl, rfl⟩ := ih rest.length (by omega) others rfl
        exact ⟨c :: more, rfl, by rw [List.reverse_cons, List.append_assoc]; rfl⟩
  · rintro ⟨more, rfl, rfl⟩
    induction more generalizing chars position with
    | nil => rw [List.append_nil]; rfl
    | cons c more ih =>
      have taken := String.utf8EncodeChar_ne_nil (c := c)
      rw [List.flatMap_cons]
      refine (decodeFrom_none_iff (List.append_ne_nil_of_left_ne_nil taken _)).mpr ⟨c, _, rfl, ?_⟩
      rw [ih, List.reverse_cons, List.append_assoc]
      rfl

/-- Decoding gives exactly the characters whose text has the bytes. -/
theorem decode_eq_ok_iff {bytes : List UInt8} {chars : List Char} :
    decode bytes = .ok chars ↔ encode (String.ofList chars) = bytes := by
  rw [decode, decodeFrom_eq_ok_iff, encode_ofList]
  constructor
  · rintro ⟨more, rfl, rfl⟩
    rfl
  · rintro rfl
    exact ⟨chars, rfl, rfl⟩

/-- Bytes are decoded if and only if they are those of a text. -/
theorem exists_decode_iff {bytes : List UInt8} :
    (∃ chars, decode bytes = .ok chars) ↔ ∃ text, encode text = bytes := by
  constructor
  · rintro ⟨chars, h⟩
    exact ⟨_, decode_eq_ok_iff.mp h⟩
  · rintro ⟨text, h⟩
    exact ⟨text.toList, decode_eq_ok_iff.mpr (by rw [String.ofList_toList]; exact h)⟩

end GraphScript.Text.Utf8
