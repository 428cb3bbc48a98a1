import GraphScript.Proofs.Execution

namespace GraphScript.Execution

open CSharp

/-- A line that starts no routine and leaves the flags of the given ones alone. -/
structure IsQuiet (routines : List RoutineCode) (text : String) : Prop where
  assigns : ∀ r ∈ routines, ∀ value, Deed.read text ≠ .assign r.flag value
  starts : ∀ flag routine, Deed.read text ≠ .start flag routine

/-- A passage in which no line concerns a routine. -/
def IsCalm (routines : List RoutineCode) (p : Passage) : Prop :=
  ∀ text, Piece.line text ∈ p.pieces → IsQuiet routines text

/-- A passage in which routines are only started under the test of their flag. -/
def IsTidy (routines : List RoutineCode) (p : Passage) : Prop :=
  ∀ text, Piece.line text ∈ p.pieces →
    IsQuiet routines text ∨ ∃ r ∈ routines, text = r.call

/-- All tests in a passage. -/
def tests : Passage → List String
  | .block header body => header.toList ++ tests body
  | .under test _ => [test]
  | .seq first second => tests first ++ tests second
  | _ => []

/-- A passage whose tests do nothing but test. -/
def IsTesting (p : Passage) : Prop :=
  ∀ test ∈ tests p, Shows Sign.isGate test

/-- A passage that keeps the rules about routines. -/
structure IsSafe (routines : List RoutineCode) (p : Passage) : Prop where
  tidy : IsTidy routines p
  testing : IsTesting p

/-- The routines of a class, with the rules that it keeps about them. -/
structure Hosts (code : ClassCode) (routines : List RoutineCode) : Prop where
  flags : ∀ r ∈ routines, ∀ r' ∈ routines, r.flag = r'.flag → r = r'
  declares : ∀ r ∈ routines, Piece.line ("private bool " ++ r.flag ++ ";") ∈ code.fields.pieces
  bodies : ∀ r ∈ routines, IsCalm routines r.body
  tests : ∀ r ∈ routines, IsTesting r.body
  waits : ∀ r ∈ routines, r.body.waits = true
  members : ∀ r ∈ routines, r.method ∈ code.methods
  methods : ∀ m ∈ code.methods, ∀ r ∈ routines, m.signature = r.method.signature → m = r.method
  signatures : ∀ r ∈ routines, ∀ r' ∈ routines, r.method.signature = r'.method.signature → r = r'
  entries : ∀ m ∈ code.methods, m.isEntry = true →
    (∀ r ∈ routines, m.signature ≠ r.method.signature) ∧ IsSafe routines m.body
  names : ∀ m ∈ code.methods, ∀ method ∈ Sign.gateMethods, ¬declaredName m.signature <:+ method

variable {code : ClassCode} {routines : List RoutineCode}

theorem IsCalm.isTidy {p : Passage} (h : IsCalm routines p) : IsTidy routines p :=
  fun text ht => .inl (h text ht)

theorem IsSafe.steps {p : Passage} (h : IsSafe routines p) : ∀ q ∈ p.steps, IsSafe routines q := by
  induction p with
  | empty => exact fun q hq => by cases hq
  | seq first second ih ih' =>
    refine List.forall_mem_append.mpr ⟨ih ⟨fun text ht => ?_, fun test ht => ?_⟩,
      ih' ⟨fun text ht => ?_, fun test ht => ?_⟩⟩
    · exact h.tidy text (List.mem_append_left _ ht)
    · exact h.testing test (List.mem_append_left _ ht)
    · exact h.tidy text (List.mem_append_right _ ht)
    · exact h.testing test (List.mem_append_right _ ht)
  | _ => exact List.forall_mem_singleton.mpr h

theorem IsSafe.unfolds {p : Passage} {inner : List Passage} (h : IsSafe routines p)
    (unfolds : Unfolds p inner) : ∀ q ∈ inner, IsSafe routines q := by
  have inside {header : Option String} {body : Passage}
      (hb : IsSafe routines (.block header body)) : ∀ q ∈ body.steps, IsSafe routines q := by
    refine IsSafe.steps ⟨fun text ht => hb.tidy text ?_, fun test ht => hb.testing test ?_⟩
    · exact List.mem_cons_of_mem _ (List.mem_append_left _ ht)
    · exact List.mem_append_right _ ht
  cases unfolds with
  | enter => exact inside h
  | again => exact List.forall_mem_append.mpr ⟨inside h, List.forall_mem_singleton.mpr h⟩
  | pass test statement =>
    refine List.forall_mem_singleton.mpr ⟨fun text ht => h.tidy text ?_, fun test ht => by cases ht⟩
    cases List.mem_singleton.mp ht
    simp [Passage.pieces]
  | _ => exact fun q hq => by cases hq

/-- The test of a statement is among those of the passage that it is. -/
theorem IsSafe.test {p : Passage} (h : IsSafe routines p) {test : String}
    (ht : p.test? = some test) : Shows Sign.isGate test := by
  refine h.testing test ?_
  cases p with
  | block header body => exact List.mem_append_left _ (Option.mem_toList.mpr ht)
  | under other statement =>
    cases ht
    exact List.mem_singleton_self _
  | _ => cases ht

/-- A method that can be left alone: one that is no routine, or a routine that runs and has its flag
to lower in the end. -/
inductive IsSteady (routines : List RoutineCode) : Frame → Prop
  | plain {f : Frame} : (∀ r ∈ routines, f.method ≠ r.method.signature) →
      (∀ p ∈ f.rest, IsSafe routines p) → IsSteady routines f
  | running {r : RoutineCode} {body : List Passage} : r ∈ routines →
      (∀ p ∈ body, IsSafe routines p) →
      IsSteady routines ⟨r.method.signature, body ++ [.line (r.flag ++ " = false;")]⟩

/-- A routine before its first statement, or behind its last one. -/
inductive IsPassing (r : RoutineCode) : Frame → Prop
  | opening : IsPassing r ⟨r.method.signature,
      .line (r.flag ++ " = true;") :: (r.body.steps ++ [.line (r.flag ++ " = false;")])⟩
  | ended : IsPassing r ⟨r.method.signature, []⟩

/-- The flag of a routine tells whether it is among the methods that were entered. -/
structure Balanced (routines : List RoutineCode) (fields : String → Bool) (frames : List Frame) :
    Prop where
  steady : ∀ f ∈ frames, IsSteady routines f
  counted : ∀ r ∈ routines,
    frames.countP (·.method == r.method.signature) = (fields r.flag).toNat

/-- The flags tell which routines were entered, but for one that has not raised its flag yet or has
lowered it already. Such a routine is the innermost method, so nothing else can happen. -/
inductive Invariant (routines : List RoutineCode) : State → Prop
  | steady {fields : String → Bool} {stack suspended : List Frame} :
      Balanced routines fields (stack ++ suspended) → Invariant routines ⟨fields, stack, suspended⟩
  | passing {fields : String → Bool} {r : RoutineCode} {top : Frame} {below suspended : List Frame} :
      r ∈ routines → IsPassing r top → fields r.flag = false →
      Balanced routines fields (below ++ suspended) →
      Invariant routines ⟨fields, top :: below, suspended⟩

theorem IsSteady.cases {method : String} {p : Passage} {rest : List Passage}
    (h : IsSteady routines ⟨method, p :: rest⟩) :
    (IsSafe routines p ∧ ∀ inner, (∀ q ∈ inner, IsSafe routines q) →
      IsSteady routines ⟨method, inner ++ rest⟩) ∨
    ∃ r ∈ routines, method = r.method.signature ∧ p = .line (r.flag ++ " = false;") ∧ rest = [] := by
  generalize hf : (⟨method, p :: rest⟩ : Frame) = f at h
  cases h with
  | plain other plain =>
    subst hf
    obtain ⟨first, others⟩ := List.forall_mem_cons.mp plain
    exact .inl ⟨first, fun inner hi => .plain other (List.forall_mem_append.mpr ⟨hi, others⟩)⟩
  | @running r body hr plain =>
    obtain ⟨rfl, split⟩ := Frame.mk.inj hf
    cases body with
    | nil =>
      obtain ⟨rfl, rfl⟩ := List.cons.inj split
      exact .inr ⟨r, hr, rfl, rfl, rfl⟩
    | cons first others =>
      obtain ⟨rfl, rfl⟩ := List.cons.inj split
      obtain ⟨hp, later⟩ := List.forall_mem_cons.mp plain
      refine .inl ⟨hp, fun inner hi => ?_⟩
      have all := IsSteady.running hr (List.forall_mem_append.mpr ⟨hi, later⟩)
      rwa [List.append_assoc] at all

/-- A method that has come to its end is no routine: that would have its flag to lower. -/
theorem IsSteady.ended {method : String} (h : IsSteady routines ⟨method, []⟩) :
    ∀ r ∈ routines, method ≠ r.method.signature := by
  generalize hf : (⟨method, []⟩ : Frame) = f at h
  cases h with
  | plain other =>
    subst hf
    exact other
  | @running r body =>
    have rest : [] = body ++ [Passage.line (r.flag ++ " = false;")] := congrArg Frame.rest hf
    simp at rest

namespace Balanced

variable {fields : String → Bool} {frames : List Frame}

theorem perm {frames' : List Frame} (h : Balanced routines fields frames) (hp : frames.Perm frames') :
    Balanced routines fields frames' := by
  refine ⟨fun f hf => h.steady f (hp.mem_iff.mpr hf), fun r hr => ?_⟩
  rw [← hp.countP_eq, h.counted r hr]

/-- A method that is no routine does not count. -/
theorem plain {f : Frame} (other : ∀ r ∈ routines, f.method ≠ r.method.signature)
    (steady : IsSteady routines f) :
    Balanced routines fields (f :: frames) ↔ Balanced routines fields frames := by
  have count (r : RoutineCode) (hr : r ∈ routines) :
      (f :: frames).countP (·.method == r.method.signature) =
        frames.countP (·.method == r.method.signature) :=
    List.countP_cons_of_neg (by simpa using other r hr)
  constructor
  · intro h
    refine ⟨fun g hg => h.steady g (List.mem_cons_of_mem _ hg), fun r hr => ?_⟩
    rw [← count r hr, h.counted r hr]
  · intro h
    refine ⟨List.forall_mem_cons.mpr ⟨steady, h.steady⟩, fun r hr => ?_⟩
    rw [count r hr, h.counted r hr]

/-- A method that goes on counts as before. -/
theorem replace {method : String} {rest rest' : List Passage}
    (h : Balanced routines fields (⟨method, rest⟩ :: frames))
    (steady : IsSteady routines ⟨method, rest'⟩) :
    Balanced routines fields (⟨method, rest'⟩ :: frames) := by
  refine ⟨List.forall_mem_cons.mpr ⟨steady, (List.forall_mem_cons.mp h.steady).2⟩, fun r hr => ?_⟩
  rw [← h.counted r hr, List.countP_cons, List.countP_cons]

theorem update (h : Balanced routines fields frames) {name : String}
    (other : ∀ r ∈ routines, r.flag ≠ name) (v : Bool) :
    Balanced routines (Function.update fields name v) frames := by
  refine ⟨h.steady, fun r hr => ?_⟩
  rw [h.counted r hr, Function.update_of_ne (other r hr)]

/-- How often a routine counts where another one, or the same, stands in front. -/
theorem countP_routine (hosts : Hosts code routines) {r r' : RoutineCode}
    (hr : r ∈ routines) (hr' : r' ∈ routines) (rest : List Passage) (frames : List Frame) :
    r' = r ∧ (⟨r.method.signature, rest⟩ :: frames).countP (·.method == r'.method.signature) =
        frames.countP (·.method == r'.method.signature) + 1 ∨
      r'.flag ≠ r.flag ∧
        (⟨r.method.signature, rest⟩ :: frames).countP (·.method == r'.method.signature) =
          frames.countP (·.method == r'.method.signature) := by
  by_cases same : r.method.signature = r'.method.signature
  · have own := hosts.signatures r hr r' hr' same
    exact .inl ⟨own.symm, List.countP_cons_of_pos (by simpa using same)⟩
  · refine .inr ⟨fun flag => same ?_, List.countP_cons_of_neg (by simpa using same)⟩
    rw [hosts.flags r' hr' r hr flag]

/-- A routine raises its flag. -/
theorem raise (hosts : Hosts code routines) {r : RoutineCode} (hr : r ∈ routines)
    (low : fields r.flag = false) (h : Balanced routines fields frames) {rest : List Passage}
    (steady : IsSteady routines ⟨r.method.signature, rest⟩) :
    Balanced routines (Function.update fields r.flag true) (⟨r.method.signature, rest⟩ :: frames) := by
  refine ⟨List.forall_mem_cons.mpr ⟨steady, h.steady⟩, fun r' hr' => ?_⟩
  have before := h.counted r' hr'
  rcases countP_routine hosts hr hr' rest frames with ⟨rfl, count⟩ | ⟨other, count⟩
  · rw [count, before, low, Function.update_self]
    rfl
  · rw [count, before, Function.update_of_ne other]

/-- A routine lowers its flag. -/
theorem lower (hosts : Hosts code routines) {r : RoutineCode} (hr : r ∈ routines)
    {rest : List Passage} (h : Balanced routines fields (⟨r.method.signature, rest⟩ :: frames)) :
    Balanced routines (Function.update fields r.flag false) frames := by
  refine ⟨(List.forall_mem_cons.mp h.steady).2, fun r' hr' => ?_⟩
  have before := h.counted r' hr'
  rcases countP_routine hosts hr hr' rest frames with ⟨rfl, count⟩ | ⟨other, count⟩
  · have most := Bool.toNat_le (fields r'.flag)
    rw [Function.update_self, Bool.toNat_false]
    omega
  · rw [← count, before, Function.update_of_ne other]

end Balanced

/-- The lines that a method can come to: one that concerns no flag or starts a routine, or the first or
the last one of a routine. -/
theorem Invariant.line_cases (hosts : Hosts code routines) {fields : String → Bool}
    {method text : String} {rest : List Passage} {below suspended : List Frame}
    (h : Invariant routines ⟨fields, ⟨method, .line text :: rest⟩ :: below, suspended⟩) :
    (IsQuiet routines text ∨ ∃ r ∈ routines, text = r.call) ∧
        Balanced routines fields (⟨method, rest⟩ :: below ++ suspended) ∨
      (∃ r ∈ routines, text = r.flag ++ " = true;" ∧ Invariant routines
        ⟨Function.update fields r.flag true, ⟨method, rest⟩ :: below, suspended⟩) ∨
      ∃ r ∈ routines, text = r.flag ++ " = false;" ∧ Invariant routines
        ⟨Function.update fields r.flag false, ⟨method, rest⟩ :: below, suspended⟩ := by
  cases h with
  | steady balanced =>
    rcases (balanced.steady _ List.mem_cons_self).cases with ⟨plain, keeps⟩ | ⟨r, hr, rfl, hp, rfl⟩
    · exact .inl ⟨plain.tidy text List.mem_cons_self, balanced.replace (keeps [] (by simp))⟩
    · cases hp
      have low : Function.update fields r.flag false r.flag = false := Function.update_self ..
      exact .inr (.inr ⟨r, hr, rfl, .passing hr .ended low (balanced.lower hosts hr)⟩)
  | @passing _ r _ _ _ hr passing low balanced =>
    cases passing with
    | opening =>
      have safe : IsSafe routines r.body := ⟨(hosts.bodies r hr).isTidy, hosts.tests r hr⟩
      have steady := IsSteady.running hr safe.steps
      exact .inr (.inl ⟨r, hr, rfl, .steady (balanced.raise hosts hr low steady)⟩)

/-- Where a method comes to a test, it does nothing but test. -/
theorem Invariant.test {fields : String → Bool} {method test : String} {p : Passage}
    {rest : List Passage} {below suspended : List Frame}
    (h : Invariant routines ⟨fields, ⟨method, p :: rest⟩ :: below, suspended⟩)
    (ht : p.test? = some test) : Shows Sign.isGate test := by
  cases h with
  | steady balanced =>
    rcases (balanced.steady _ List.mem_cons_self).cases with ⟨safe, -⟩ | ⟨_, _, _, rfl, _⟩
    · exact safe.test ht
    · cases ht
  | passing _ passing =>
    cases passing with
    | opening => cases ht

theorem Invariant.step (hosts : Hosts code routines) {before after : State}
    (h : Invariant routines before) (step : Step code before after) : Invariant routines after := by
  cases step with
  | call hm entry =>
    cases h with
    | steady balanced =>
      obtain ⟨other, plain⟩ := hosts.entries _ hm entry
      exact .steady ((Balanced.plain other (.plain other plain.steps)).mpr balanced)
  | resume =>
    cases h with
    | steady balanced => exact .steady (balanced.perm List.perm_middle)
  | finish =>
    cases h with
    | steady balanced =>
      have top := balanced.steady _ List.mem_cons_self
      exact .steady ((Balanced.plain top.ended top).mp balanced)
    | passing _ _ _ balanced => exact .steady balanced
  | wait =>
    cases h with
    | steady balanced =>
      rcases (balanced.steady _ List.mem_cons_self).cases with ⟨-, keeps⟩ | ⟨_, _, _, line, _⟩
      · -- what waits has its flag still to lower, so it counts as before
        exact .steady ((balanced.replace (keeps [] (by simp))).perm List.perm_middle.symm)
      · cases line
    | passing _ passing => cases passing
  | proceed unfolds =>
    cases h with
    | steady balanced =>
      rcases (balanced.steady _ List.mem_cons_self).cases with ⟨plain, keeps⟩ | ⟨_, _, _, rfl, _⟩
      · exact .steady (balanced.replace (keeps _ (plain.unfolds unfolds)))
      · cases unfolds
    | passing _ passing =>
      cases passing with
      | opening => cases unfolds
  | alter ht assigns _ => cases List.all_eq_true.mp (h.test ht) _ assigns
  | @invoke _ _ _ _ _ _ _ m ht hm called =>
    obtain ⟨sign, hs, called⟩ := List.any_eq_true.mp called
    have gate := List.all_eq_true.mp (h.test ht) sign hs
    cases sign with
    | call name =>
      exact absurd (List.isSuffixOf_iff_suffix.mp called)
        (hosts.names m hm name (List.contains_iff_mem.mp gate))
    | _ => cases called
  | leave ht stops => cases List.all_eq_true.mp (h.test ht) _ stops
  | other read =>
    rcases h.line_cases hosts with ⟨-, balanced⟩ | ⟨r, -, rfl, -⟩ | ⟨r, -, rfl, -⟩
    · exact .steady balanced
    · cases (read_raise r).symm.trans read
    · cases (read_lower r).symm.trans read
  | assign read given =>
    rcases h.line_cases hosts with ⟨quiet | ⟨r, -, rfl⟩, balanced⟩ | ⟨r, hr, rfl, raised⟩ |
      ⟨r, hr, rfl, lowered⟩
    · exact .steady (balanced.update (fun r hr same => quiet.assigns r hr _ (same ▸ read)) _)
    · cases (read_call r).symm.trans read
    · cases (read_raise r).symm.trans read
      cases given true rfl
      exact raised
    · cases (read_lower r).symm.trans read
      cases given false rfl
      exact lowered
  | running read =>
    rcases h.line_cases hosts with ⟨-, balanced⟩ | ⟨r, -, rfl, -⟩ | ⟨r, -, rfl, -⟩
    · exact .steady balanced
    · cases (read_raise r).symm.trans read
    · cases (read_lower r).symm.trans read
  | start read low hm signature =>
    rcases h.line_cases hosts with ⟨quiet | ⟨r, hr, rfl⟩, balanced⟩ | ⟨r, hr, rfl, raised⟩ |
      ⟨r, hr, rfl, lowered⟩
    · exact absurd read (quiet.starts _ _)
    · cases (read_call r).symm.trans read
      -- the flag was down, so no other instance was entered
      rw [hosts.methods _ hm r hr signature]
      exact .passing hr .opening low balanced
    · cases (read_raise r).symm.trans read
    · cases (read_lower r).symm.trans read

theorem Reachable.invariant (hosts : Hosts code routines) {state : State}
    (h : Reachable code state) : Invariant routines state := by
  induction h with
  | initial start =>
    refine .steady ⟨by simp, fun r hr => ?_⟩
    rw [start _ (hosts.declares r hr)]
    rfl
  | step _ step ih => exact ih.step hosts step

/-- A routine has at most one live instance, and its flag tells whether it has one where nothing
runs. -/
theorem Invariant.live (hosts : Hosts code routines) {state : State} (h : Invariant routines state)
    {r : RoutineCode} (hr : r ∈ routines) :
    state.live r.method ≤ 1 ∧
      (state.stack = [] → (state.fields r.flag = true ↔ state.live r.method = 1)) := by
  cases h with
  | @steady fields stack suspended balanced =>
    have count : State.live ⟨fields, stack, suspended⟩ r.method = (fields r.flag).toNat :=
      balanced.counted r hr
    rw [count]
    exact ⟨Bool.toNat_le _, fun _ => Bool.toNat_eq_one.symm⟩
  | @passing fields r' top below suspended hr' passing low balanced =>
    refine ⟨?_, fun idle => by cases idle⟩
    have method : top.method = r'.method.signature := by cases passing <;> rfl
    have others := balanced.counted r hr
    have most := Bool.toNat_le (fields r.flag)
    obtain ⟨_, rest⟩ := top
    cases method
    change (⟨r'.method.signature, rest⟩ :: (below ++ suspended)).countP _ ≤ 1
    rcases Balanced.countP_routine hosts hr' hr rest (below ++ suspended) with
      ⟨rfl, count⟩ | ⟨-, count⟩
    · rw [count, others, low]
      rfl
    · omega

/-- A line that concerns no routine can be run, and leaves the flags as they are. -/
theorem IsQuiet.runs {text : String} (h : IsQuiet routines text) (fields : String → Bool)
    (method : String) (rest : List Passage) (below suspended : List Frame) :
    ∃ fields', Runs code ⟨fields, ⟨method, .line text :: rest⟩ :: below, suspended⟩
        ⟨fields', ⟨method, rest⟩ :: below, suspended⟩ ∧
      ∀ r ∈ routines, fields' r.flag = fields r.flag := by
  cases read : Deed.read text with
  | other => exact ⟨fields, .single (.other read), fun _ _ => rfl⟩
  | start flag routine => exact absurd read (h.starts flag routine)
  | assign name value =>
    have given : ∀ v ∈ value, value.getD false = v := by
      rintro v ⟨⟩
      rfl
    refine ⟨_, .single (.assign read given), fun r hr => Function.update_of_ne ?_ ..⟩
    rintro rfl
    exact h.assigns r hr value read

/-- A passage in which no line concerns a routine can be run up to its first wait. -/
theorem IsCalm.runs {p : Passage} (h : IsCalm routines p) (fields : String → Bool)
    (method : String) (rest : List Passage) (below suspended : List Frame) :
    ∃ fields', (∀ r ∈ routines, fields' r.flag = fields r.flag) ∧
      (p.waits = false ∧ Runs code ⟨fields, ⟨method, p.steps ++ rest⟩ :: below, suspended⟩
          ⟨fields', ⟨method, rest⟩ :: below, suspended⟩ ∨
        p.waits = true ∧ ∃ left, Runs code ⟨fields, ⟨method, p.steps ++ rest⟩ :: below, suspended⟩
          ⟨fields', below, ⟨method, left⟩ :: suspended⟩) := by
  induction p generalizing fields rest with
  | empty => exact ⟨fields, fun _ _ => rfl, .inl ⟨rfl, .refl⟩⟩
  | line text =>
    obtain ⟨fields', runs, same⟩ := (h text List.mem_cons_self).runs fields method rest below suspended
    exact ⟨fields', same, .inl ⟨rfl, runs⟩⟩
  | comment text => exact ⟨fields, fun _ _ => rfl, .inl ⟨rfl, .single (.proceed (.comment text))⟩⟩
  | wait seconds => exact ⟨fields, fun _ _ => rfl, .inr ⟨rfl, rest, .single .wait⟩⟩
  | under test statement =>
    exact ⟨fields, fun _ _ => rfl, .inl ⟨rfl, .single (.proceed (.fail test statement))⟩⟩
  | block header body ih =>
    have inside : IsCalm routines body := fun text ht =>
      h text (List.mem_cons_of_mem _ (List.mem_append_left _ ht))
    obtain ⟨fields', same, runs⟩ := ih inside fields rest
    have entered : Step code ⟨fields, ⟨method, .block header body :: rest⟩ :: below, suspended⟩
        ⟨fields, ⟨method, body.steps ++ rest⟩ :: below, suspended⟩ := .proceed (.enter header body)
    refine ⟨fields', same, ?_⟩
    rcases runs with ⟨still, runs⟩ | ⟨waits, left, runs⟩
    · exact .inl ⟨still, .head entered runs⟩
    · exact .inr ⟨waits, left, .head entered runs⟩
  | seq first second ih ih' =>
    have hf : IsCalm routines first := fun text ht => h text (List.mem_append_left _ ht)
    have hs : IsCalm routines second := fun text ht => h text (List.mem_append_right _ ht)
    obtain ⟨middle, same, runs⟩ := ih hf fields (second.steps ++ rest)
    rw [Passage.steps, List.append_assoc, Passage.waits]
    rcases runs with ⟨still, runs⟩ | ⟨waits, left, runs⟩
    · obtain ⟨fields', same', runs'⟩ := ih' hs middle rest
      refine ⟨fields', fun r hr => (same' r hr).trans (same r hr), ?_⟩
      rw [still, Bool.false_or]
      rcases runs' with ⟨still', runs'⟩ | ⟨waits, left, runs'⟩
      · exact .inl ⟨still', runs.trans runs'⟩
      · exact .inr ⟨waits, left, runs.trans runs'⟩
    · rw [waits]
      exact ⟨middle, same, .inr ⟨rfl, left, runs⟩⟩

/-- A routine whose flag is down runs up to its first wait where it is called. -/
theorem start_runs {r : RoutineCode} (hr : r ∈ routines) (member : r.method ∈ code.methods)
    (calm : IsCalm routines r.body) (waits : r.body.waits = true) {fields : String → Bool}
    (low : fields r.flag = false) (method : String) (rest : List Passage)
    (below suspended : List Frame) :
    ∃ fields' left, Runs code ⟨fields, ⟨method, .line r.call :: rest⟩ :: below, suspended⟩
        ⟨fields', ⟨method, rest⟩ :: below, ⟨r.method.signature, left⟩ :: suspended⟩ ∧
      fields' r.flag = true ∧ ∀ r' ∈ routines, fields r'.flag = true → fields' r'.flag = true := by
  have start : Step code ⟨fields, ⟨method, .line r.call :: rest⟩ :: below, suspended⟩
      ⟨fields, .of r.method :: ⟨method, rest⟩ :: below, suspended⟩ :=
    .start (read_call r) low member rfl
  have raise : Step code ⟨fields, .of r.method :: ⟨method, rest⟩ :: below, suspended⟩
      ⟨Function.update fields r.flag true, ⟨r.method.signature,
        r.body.steps ++ [Passage.line (r.flag ++ " = false;")]⟩ :: ⟨method, rest⟩ :: below,
      suspended⟩ :=
    .assign (read_raise r) (by simp)
  obtain ⟨fields', same, ⟨still, -⟩ | ⟨-, left, runs⟩⟩ := calm.runs
    (Function.update fields r.flag true) r.method.signature [.line (r.flag ++ " = false;")]
    (⟨method, rest⟩ :: below) suspended
  · rw [waits] at still
    cases still
  · refine ⟨fields', left, .head start (.head raise runs), ?_, fun r' hr' up => ?_⟩
    · rw [same r hr, Function.update_self]
    · rw [same r' hr', Function.update_apply]
      split
      next => rfl
      next => exact up

/-- A routine that is called runs up to its first wait, unless it runs already. -/
theorem Hosts.call_runs (hosts : Hosts code routines) {r : RoutineCode} (hr : r ∈ routines)
    (fields : String → Bool) (method : String) (rest : List Passage) (below suspended : List Frame) :
    ∃ fields' suspended', Runs code ⟨fields, ⟨method, .line r.call :: rest⟩ :: below, suspended⟩
        ⟨fields', ⟨method, rest⟩ :: below, suspended'⟩ ∧ fields' r.flag = true ∧
      ∀ r' ∈ routines, fields r'.flag = true → fields' r'.flag = true := by
  cases up : fields r.flag with
  | true => exact ⟨fields, suspended, .single (.running (read_call r) up), up, fun _ _ h => h⟩
  | false =>
    obtain ⟨fields', left, runs, raised, kept⟩ := start_runs hr (hosts.members r hr)
      (hosts.bodies r hr) (hosts.waits r hr) up method rest below suspended
    exact ⟨fields', _, runs, raised, kept⟩

/-- A passage without waits can be run, and lowers no flag. -/
theorem IsTidy.runs (hosts : Hosts code routines) {p : Passage} (h : IsTidy routines p)
    (still : p.waits = false) (fields : String → Bool) (method : String) (rest : List Passage)
    (below suspended : List Frame) :
    ∃ fields' suspended', Runs code ⟨fields, ⟨method, p.steps ++ rest⟩ :: below, suspended⟩
        ⟨fields', ⟨method, rest⟩ :: below, suspended'⟩ ∧
      ∀ r ∈ routines, fields r.flag = true → fields' r.flag = true := by
  induction p generalizing fields rest suspended with
  | empty => exact ⟨fields, suspended, .refl, fun _ _ up => up⟩
  | line text =>
    rcases h text List.mem_cons_self with quiet | ⟨r, hr, rfl⟩
    · obtain ⟨fields', runs, same⟩ := quiet.runs fields method rest below suspended
      exact ⟨fields', suspended, runs, fun r hr up => (same r hr).trans up⟩
    · obtain ⟨fields', suspended', runs, -, kept⟩ :=
        hosts.call_runs hr fields method rest below suspended
      exact ⟨fields', suspended', runs, kept⟩
  | comment text =>
    exact ⟨fields, suspended, .single (.proceed (.comment text)), fun _ _ up => up⟩
  | wait => cases still
  | under test statement =>
    exact ⟨fields, suspended, .single (.proceed (.fail test statement)), fun _ _ up => up⟩
  | block header body ih =>
    have inside : IsTidy routines body := fun text ht =>
      h text (List.mem_cons_of_mem _ (List.mem_append_left _ ht))
    obtain ⟨fields', suspended', runs, kept⟩ := ih inside still fields rest suspended
    exact ⟨fields', suspended', .head (.proceed (.enter header body)) runs, kept⟩
  | seq first second ih ih' =>
    have hf : IsTidy routines first := fun text ht => h text (List.mem_append_left _ ht)
    have hs : IsTidy routines second := fun text ht => h text (List.mem_append_right _ ht)
    obtain ⟨still, still'⟩ := Bool.or_eq_false_iff.mp still
    obtain ⟨middle, between, runs, kept⟩ := ih hf still fields (second.steps ++ rest) suspended
    obtain ⟨fields', suspended', runs', kept'⟩ := ih' hs still' middle rest between
    rw [Passage.steps, List.append_assoc]
    exact ⟨fields', suspended', runs.trans runs', fun r hr up => kept' r hr (kept r hr up)⟩

/-- A routine comes to wait if a method calls it under guards, and does not wait itself. -/
theorem Hosts.comes_to_wait (hosts : Hosts code routines) {r : RoutineCode} (hr : r ∈ routines)
    {m : Method} (hm : m ∈ code.methods) (entry : m.isEntry = true) {guards : List String}
    {first last : Passage} (tidy : IsTidy routines first ∧ IsTidy routines last)
    (still : first.waits = false ∧ last.waits = false)
    (split : m.body.steps =
      first.steps ++ ((Passage.guarded guards (.line r.call)).steps ++ last.steps)) :
    ∃ state, Reachable code state ∧ state.stack = [] ∧ state.fields r.flag = true := by
  let initial : State := ⟨fun _ => false, [], []⟩
  have called : Step code initial ⟨fun _ => false, [.of m], []⟩ := .call hm entry
  rw [Frame.of, split] at called
  obtain ⟨fields₁, suspended₁, toGuards, -⟩ := tidy.1.runs hosts still.1 (fun _ => false) m.signature
    ((Passage.guarded guards (.line r.call)).steps ++ last.steps) [] []
  have toCall : Runs code _ _ :=
    runs_guarded guards (.line r.call) fields₁ m.signature last.steps [] suspended₁
  obtain ⟨fields₂, suspended₂, toRest, up, -⟩ :=
    hosts.call_runs hr fields₁ m.signature last.steps [] suspended₁
  obtain ⟨fields₃, suspended₃, toEnd, kept⟩ :=
    tidy.2.runs hosts still.2 fields₂ m.signature [] [] suspended₂
  rw [List.append_nil] at toEnd
  have whole : Runs code initial ⟨fields₃, [], suspended₃⟩ :=
    (((toGuards.trans toCall).trans toRest).trans toEnd).tail .finish |>.head called
  have start : Reachable code initial := .initial fun _ _ => rfl
  exact ⟨_, start.runs whole, rfl, kept r hr up⟩

end GraphScript.Execution
