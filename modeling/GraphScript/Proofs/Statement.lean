import GraphScript.Proofs.Expression
import GraphScript.Proofs.Passage
import GraphScript.Proofs.Plain

namespace GraphScript

open Lowered CSharp

/-- The test above the one statement that stands without braces. -/
def hitLine : String := "if (hit.gameObject != gameObject)"

/-- How the lines begin that are told apart from all others: braces, the test of a hit and waits. -/
def specialStarts : List (List Char) :=
  [['\x7b'], ['\x7d'], ['i', 'f', ' ', '('] ++ Context.hitWord ++ [' '],
    ['y', 'i', 'e', 'l', 'd', ' ', 'r']]

/-- A line that begins like none of the special ones, however it goes on. -/
def IsApart (chars : List Char) : Prop :=
  (specialStarts.all fun start => diverges start chars) = true

instance (chars : List Char) : Decidable (IsApart chars) :=
  inferInstanceAs (Decidable (_ = _))

theorem isApart_iff {chars : List Char} : IsApart chars ↔ diverges ['\x7b'] chars = true ∧
    diverges ['\x7d'] chars = true ∧
      diverges (['i', 'f', ' ', '('] ++ Context.hitWord ++ [' ']) chars = true ∧
        diverges ['y', 'i', 'e', 'l', 'd', ' ', 'r'] chars = true := by
  simp [IsApart, specialStarts]

theorem IsApart.extend {chars line : List Char} (h : IsApart chars) (hp : chars <+: line) :
    IsApart line :=
  List.all_eq_true.mpr fun start hs => diverges_of_start (List.all_eq_true.mp h start hs) hp

theorem isApart_of_head {chars : List Char} {c : Char} (h : chars.head? = some c)
    (hc : c ∉ ['\x7b', '\x7d', 'i', 'y']) : IsApart chars := by
  have other (d : Char) (hd : d ∈ ['\x7b', '\x7d', 'i', 'y']) : d ≠ c := by
    rintro rfl
    exact hc hd
  exact isApart_iff.mpr ⟨diverges_of_head h (other '\x7b' (by decide)),
    diverges_of_head h (other '\x7d' (by decide)), diverges_of_head h (other 'i' (by decide)),
    diverges_of_head h (other 'y' (by decide))⟩

theorem isApart_comment (text : String) : IsApart (Passage.commentText text).toList :=
  isApart_of_head (c := '/') (by simp [Passage.commentText]) (by decide)

/-- A line that starts with a name and an operator. -/
theorem isApart_of_name {name : String} {c : Char} (hn : IsName name) (hc : c ∉ ['(', 'r']) :
    IsApart (name.toList ++ [' ', c]) := by
  have blank : ' ' ∉ name.toList := fun hm => unmarked_iff.mp hn.unmarked ' ' hm (by decide)
  have brace (d : Char) (hd : d ∉ name.toList) (other : d ≠ ' ') :
      diverges [d] (name.toList ++ [' ', c]) = true := by
    cases hw : name.toList with
    | nil => simp [diverges, other]
    | cons first word =>
      have different : d ≠ first := by
        rintro rfl
        exact hd (hw ▸ List.mem_cons_self)
      simp [diverges, different]
  have operator (d : Char) (hd : d ∈ ['(', 'r']) : d ≠ c := by
    rintro rfl
    exact hc hd
  refine isApart_iff.mpr ⟨brace '\x7b' (hn.plain _ (by decide)) (by decide),
    brace '\x7d' (hn.plain _ (by decide)) (by decide), ?_, ?_⟩
  -- the name itself may be one of these words, so it is what follows that tells them apart
  · exact diverges_of_next ['i', 'f'] blank (by decide) (operator '(' (by decide))
      (Context.hitWord ++ [' ']) []
  · exact diverges_of_next ['y', 'i', 'e', 'l', 'd'] blank (by decide) (operator 'r' (by decide))
      [] []

namespace Context

variable {ctx : Context}

structure Ordinary (ctx : Context) (text : String) : Prop where
  apart : IsApart text.toList
  neutral : ctx.Harmless → Neutral text

/-- A line from a template whose start tells it apart. -/
theorem ordinary_join (first : List Char) (rest : List Fragment) (apart : IsApart first)
    (balanced : Fragment.balance (.code 0) (.given first :: rest) = some (.code 0)) :
    ctx.Ordinary (Fragment.join (.given first :: rest)) :=
  ⟨apart.extend (Fragment.prefix_join first rest), fun _ => neutral_join _ balanced⟩

theorem ordinary_test {expression : String} (h : ctx.Expression expression) :
    ctx.Ordinary ("if (" ++ expression ++ ")") := by
  refine ⟨?_, fun harmless => neutral_join [.given _, .part _ (h.neutral harmless), .given _] rfl⟩
  have line : ("if (" ++ expression ++ ")").toList =
      ['i', 'f', ' ', '('] ++ expression.toList ++ [')'] := by simp
  have test : IsApart (['i', 'f', ' ', '('] ++ expression.toList) := by
    refine isApart_iff.mpr ⟨rfl, rfl, ?_, rfl⟩
    rw [List.append_assoc, diverges_common]
    exact h.apart
  rw [line]
  exact test.extend (List.prefix_append _ _)

end Context

/-- A passage whose lines are ordinary, except for its waits, its blanks and the tests of hits. -/
def Passage.IsOrdinary (ctx : Context) : Passage → Prop
  | line text => text = "" ∨ ctx.Ordinary text
  | wait seconds => Unmarked seconds
  | block header body => (∀ text ∈ header, ctx.Ordinary text) ∧ body.IsOrdinary ctx
  | under test statement => test = hitLine ∧ ctx.Ordinary statement
  | seq first second => first.IsOrdinary ctx ∧ second.IsOrdinary ctx
  | _ => True

namespace Lowered

variable {α β : Type}

theorem pieces_of_ok {x : Lowered α} {a : α} (h : x.result = .ok a) (f : α → Lowered β) :
    (x >>= f).pieces = x.pieces ++ (f a).pieces := by
  rw [bind_of_ok h]
  exact List.filterMap_append

/-- The passage that a lowering writes, with a wait or without. -/
structure Wrote (ctx : Context) (waits : Bool) (x : Lowered α) (p : Passage) : Prop where
  pieces : x.pieces = p.pieces
  ordinary : p.IsOrdinary ctx
  waits : p.waits = waits

/-- What a lowering writes, if it ends. Where it is filled it has a line. -/
def Writes (ctx : Context) (waits filled : Bool) (x : Lowered α) : Prop :=
  ∀ a, x.result = .ok a → ∃ p, x.Wrote ctx waits p ∧ (filled = true → p.lines ≠ [])

variable {ctx : Context} {waits waits' filled : Bool} {x : Lowered α}

theorem IsSilent.writes (h : x.IsSilent ctx.config) : x.Writes ctx false false :=
  fun _ _ => ⟨.empty, ⟨h.pieces_eq_nil, trivial, rfl⟩, fun hf => by cases hf⟩

theorem Writes.bind {f : α → Lowered β} (h : x.Writes ctx waits filled)
    (h' : ∀ a, x.result = .ok a → (f a).Writes ctx waits' false) :
    (x >>= f).Writes ctx (waits || waits') filled := by
  intro b hb
  obtain ⟨a, ha, hb⟩ := bind_result_ok hb
  obtain ⟨p, hp, hl⟩ := h a ha
  obtain ⟨q, hq, -⟩ := h' a ha b hb
  refine ⟨.seq p q, ⟨?_, ⟨hp.ordinary, hq.ordinary⟩, ?_⟩, fun hf => ?_⟩
  · rw [pieces_of_ok ha, hp.pieces, hq.pieces]
    rfl
  · rw [Passage.waits, hp.waits, hq.waits]
  · exact List.append_ne_nil_of_left_ne_nil (hl hf) _

/-- What writes nothing adds nothing to what is written next. -/
theorem writes_after {f : α → Lowered β} (h : x.pieces = [])
    (h' : ∀ a, x.result = .ok a → (f a).Writes ctx waits filled) :
    (x >>= f).Writes ctx waits filled := by
  intro b hb
  obtain ⟨a, ha, hb⟩ := bind_result_ok hb
  obtain ⟨p, hp, filled⟩ := h' a ha b hb
  refine ⟨p, ⟨?_, hp.ordinary, hp.waits⟩, filled⟩
  rw [pieces_of_ok ha, h, hp.pieces]
  rfl

theorem IsSilent.writes_bind {f : α → Lowered β} (h : x.IsSilent ctx.config)
    (h' : ∀ a, x.result = .ok a → (f a).Writes ctx waits filled) :
    (x >>= f).Writes ctx waits filled :=
  writes_after h.pieces_eq_nil h'

theorem Writes.bare (h : x.Writes ctx waits filled) : x.Writes ctx waits false := by
  intro a ha
  obtain ⟨p, hp, -⟩ := h a ha
  exact ⟨p, hp, fun hf => by cases hf⟩

theorem writes_line {text : String} (h : ctx.Ordinary text) : (line text).Writes ctx false filled :=
  fun _ _ => ⟨.line text, ⟨rfl, .inr h, rfl⟩, fun _ => by simp [Passage.lines]⟩

theorem writes_comment (text : String) : (comment text).Writes ctx false filled :=
  fun _ _ => ⟨.comment text, ⟨rfl, trivial, rfl⟩, fun _ => by simp [Passage.lines]⟩

theorem Writes.block {header : Option String} {body : Lowered Unit}
    (hh : ∀ text ∈ header, ctx.Ordinary text) (h : body.Writes ctx waits false) :
    (block header body).Writes ctx waits filled := by
  intro a ha
  obtain ⟨_, -, hb⟩ := bind_result_ok ha
  obtain ⟨_, hb, -⟩ := bind_result_ok hb
  obtain ⟨p, hp, -⟩ := h _ hb
  refine ⟨.block header p, ⟨?_, ⟨hh, hp.ordinary⟩, hp.waits⟩, fun _ => by simp [Passage.lines]⟩
  have inside : (do body; perform (.write .close) : Lowered Unit).pieces =
      p.pieces ++ [Piece.close] := by
    rw [pieces_of_ok hb, hp.pieces]
    rfl
  change (perform _ >>= _).pieces = _
  rw [pieces_of_ok (result_perform _), inside]
  rfl

end Lowered

theorem statement_writes {ctx : Context} {filled : Bool} {text : String}
    (h : ctx.Ordinary (text ++ ";")) : (statement text).Writes ctx false filled :=
  writes_line h

namespace Context

variable {ctx : Context}

theorem incomplete_writes (note comment : String) :
    (ctx.incomplete note comment).Writes ctx false true :=
  (perform_isSilent rfl).writes_bind fun _ _ => writes_comment comment

/-- A call stands as a statement of its own if its arguments close what they open. -/
theorem callStatement_writes {c : ServiceCall} (h : ∀ argument ∈ c.arguments, Neutral argument) :
    (do statement (← ctx.call c) : Lowered Unit).Writes ctx false true := by
  refine (call_isSilent c).writes_bind fun text ht => statement_writes ?_
  obtain ⟨neutral, head⟩ := ServiceCall.render_written ctx.config.serviceMode h
  have special : ['\x7b', '\x7d', 'i', 'y'].all
      (fun d => !(['_', 'P', 'A', 'E', 'D', 'S', 'C'].contains d)) = true := by decide
  have other : ∀ d ∈ ['\x7b', '\x7d', 'i', 'y'],
      d ≠ ServiceCall.initial ctx.config.serviceMode c.service := fun d hd =>
    ServiceCall.initial_ne (by simpa using List.all_eq_true.mp special d hd) _ _
  rw [call_result ht]
  refine ⟨?_, fun _ => neutral_join [.part _ neutral, .given _] rfl⟩
  rw [String.toList_append]
  exact (isApart_of_head head fun hm => other _ hm rfl).extend (List.prefix_append _ _)

theorem neutral_positionVector (x y : Binary64) : Neutral (ctx.positionVector x y) :=
  neutral_join [.given _, .part _ (neutral_floatLiteral _), .given _,
    .part _ (neutral_floatLiteral _), .given _] rfl

theorem lowerMove_writes (p : MoveParams) : (ctx.lowerMove p).Writes ctx false true := by
  have direction : Neutral ("new Vector3(" ++ floatLiteral p.direction.x ++ ", " ++
      floatLiteral p.direction.y.neg ++ ", 0)") :=
    neutral_join [.given _, .part _ (neutral_floatLiteral _), .given _,
      .part _ (neutral_floatLiteral _), .given _] rfl
  exact statement_writes (ordinary_join _ [.part _ direction, .given _,
    .part _ (neutral_floatLiteral _), .given _, .given _] (by decide) rfl)

theorem lowerChaseTarget_writes (p : ChaseTargetParams) :
    (ctx.lowerChaseTarget p).Writes ctx false true := by
  have test : ctx.Ordinary "if (target != null)" := ordinary_join _ [] (by decide) rfl
  refine (writes_comment _).bind fun _ _ => Writes.block (by simp) ?_
  refine (statement_writes (ordinary_join _ [.part _ (neutral_quote _), .given _, .given _]
    (by decide) rfl)).bind fun _ _ => Writes.block (by simpa using test) ?_
  refine (statement_writes (ordinary_join _ [.given _] (by decide) rfl)).bind fun _ _ => ?_
  exact statement_writes (ordinary_join _ [.part _ (neutral_floatLiteral _), .given _, .given _]
    (by decide) rfl)

theorem lowerMoveToward_writes (p : MoveTowardParams) :
    (ctx.lowerMoveToward p).Writes ctx false true := by
  have test : ctx.Ordinary ("if (Vector3.Distance(_transform.position, targetPos) > " ++
      floatLiteral ctx.config.arriveEpsilon ++ ")") :=
    ordinary_join _ [.part _ (neutral_floatLiteral _), .given _] (by decide) rfl
  refine (writes_comment _).bind fun _ _ => Writes.block (by simp) ?_
  refine (statement_writes (ordinary_join _ [.part _ (neutral_positionVector _ _), .given _]
    (by decide) rfl)).bind fun _ _ => ?_
  refine (statement_writes (ordinary_join _ [.given _] (by decide) rfl)).bind fun _ _ => ?_
  refine Writes.block (by simpa using test) ?_
  exact statement_writes (ordinary_join _ [.part _ (neutral_floatLiteral _), .given _, .given _]
    (by decide) rfl)

/-- An assignment to a name, told apart by the operator that follows the name. -/
theorem ordinary_assignment {name : String} (hn : IsName name) {c : Char} (hc : c ∉ ['(', 'r'])
    (rest : List Fragment) (operator : (rest.flatMap fun f => f.text.toList).take 2 = [' ', c])
    (balanced : Fragment.balance (.code 0) rest = some (.code 0)) :
    ctx.Ordinary (Fragment.join (.part name hn.unmarked.neutral :: rest)) := by
  refine ⟨(isApart_of_name hn hc).extend ?_, fun _ => neutral_join _ balanced⟩
  rw [Fragment.toList_join, List.flatMap_cons, ← operator]
  exact (List.prefix_append_right_inj _).mpr (List.take_prefix _ _)

theorem lowerDivide_writes {target first second zero : String} (ht : IsName target)
    (hf : Neutral first) (hs : Neutral second) (hz : Neutral zero) :
    (lowerDivide target first second zero).Writes ctx false true := by
  have divided : (statement (target ++ " = " ++ second ++ " != 0 ? " ++ first ++ " / " ++ second ++
      " : " ++ zero)).Writes ctx false true :=
    statement_writes (ordinary_assignment ht (c := '=') (by decide)
      [.given _, .part _ hs, .given _, .part _ hf, .given _, .part _ hs, .given _, .part _ hz,
        .given _] rfl rfl)
  have constant : (ofExcept (constantValue second)).IsSilent ctx.config := within_ofExcept _
  refine constant.writes_bind fun value _ => ?_
  cases value with
  | none => exact divided
  | some x =>
    dsimp only
    split
    next =>
      exact writes_line (ordinary_assignment ht (c := '=') (by decide)
        [.given _, .part _ hz, .given _] rfl rfl)
    next => exact divided

theorem neutral_of_arithmetic? {operation symbol : String}
    (h : arithmetic? operation = some symbol) : Neutral symbol := by
  unfold arithmetic? at h
  split at h
  next =>
    cases h
    decide
  next =>
    cases h
    decide
  next =>
    cases h
    decide
  next => cases h

theorem lowerSetVar_writes (named : ctx.Named) (p : SetVarParams) :
    (ctx.lowerSetVar p).Writes ctx false true := by
  unfold lowerSetVar
  split
  next => exact incomplete_writes _ _
  next =>
    have target := isName_identifier named.names p.name
    refine (operand_isSilent _ _).writes_bind fun first hf => ?_
    refine (operand_isSilent _ _).writes_bind fun second hs => ?_
    have neutral := (operand_isOperand _ _ hf).neutral named.names
    have neutral' := (operand_isOperand _ _ hs).neutral named.names
    have assigned : (statement (ctx.identifier p.name ++ " = " ++ first)).Writes ctx false true :=
      statement_writes (ordinary_assignment target (c := '=') (by decide)
        [.given _, .part _ neutral, .given _] rfl rfl)
    dsimp only
    split
    next symbol hs =>
      exact statement_writes (ordinary_assignment target (c := '=') (by decide)
        [.given _, .part _ neutral, .given _, .part _ (neutral_of_arithmetic? hs), .given _,
          .part _ neutral', .given _] rfl rfl)
    next =>
      split
      next => exact lowerDivide_writes target neutral neutral' (neutral_zero _)
      next =>
        split
        next => exact (perform_isSilent rfl).writes_bind fun _ _ => assigned
        next => exact assigned

theorem lowerIncrementVar_writes (named : ctx.Named) (p : IncrementVarParams) :
    (ctx.lowerIncrementVar p).Writes ctx false true := by
  have target := isName_identifier named.names p.name
  unfold lowerIncrementVar
  split
  next => exact incomplete_writes _ _
  next =>
    dsimp only
    split
    next =>
      split
      next =>
        refine (perform_isSilent rfl).writes_bind fun _ _ => ?_
        exact statement_writes (ordinary_assignment target (c := '+') (by decide)
          [.given _, .given _, .given _, .given _] rfl rfl)
      next =>
        exact statement_writes (ordinary_assignment target (c := '+') (by decide)
          [.given _, .given _] rfl rfl)
    next =>
      exact statement_writes (ordinary_assignment target (c := '+') (by decide)
        [.given _, .part _ (neutral_numberLiteral _ _), .given _] rfl rfl)

theorem lowerWait_writes (p : WaitParams) : (lowerWait p).Writes ctx true true :=
  fun _ _ => ⟨.wait (floatLiteral p.seconds), ⟨rfl, unmarked_floatLiteral _, rfl⟩,
    fun _ => by simp [Passage.lines]⟩

theorem lowerHealth_writes (named : ctx.Named) {sign : String} (hs : sign = "-" ∨ sign = "+")
    (label : String) (p : HealthParams) : (ctx.lowerHealth sign label p).Writes ctx false true := by
  refine health_isSilent.writes_bind fun health hh => ?_
  cases hh
  refine (writes_comment _).bind fun _ _ => ?_
  rcases hs with rfl | rfl
  · exact statement_writes (ordinary_assignment named.health (c := '-') (by decide)
      [.given _, .given _, .given _, .part _ (neutral_numberLiteral _ _), .given _] rfl rfl)
  · exact statement_writes (ordinary_assignment named.health (c := '+') (by decide)
      [.given _, .given _, .given _, .part _ (neutral_numberLiteral _ _), .given _] rfl rfl)

theorem lowerAttack_writes (p : AttackParams) : (ctx.lowerAttack p).Writes ctx false true := by
  have each : ctx.Ordinary "foreach (var hit in hits)" := ordinary_join _ [] (by decide) rfl
  have message : ctx.Ordinary ("hit.SendMessage(\"OnTakeDamage\", " ++ floatLiteral p.damage ++
      ", SendMessageOptions.DontRequireReceiver)" ++ ";") :=
    ordinary_join _ [.part _ (neutral_floatLiteral _), .given _, .given _] (by decide) rfl
  refine (writes_comment _).bind fun _ _ => Writes.block (by simp) ?_
  refine (statement_writes (ordinary_join _ [.part _ (neutral_floatLiteral _), .given _, .given _]
    (by decide) rfl)).bind fun _ _ => Writes.block (by simpa using each) ?_
  exact fun _ _ => ⟨.under hitLine _, ⟨rfl, ⟨rfl, message⟩, rfl⟩, fun hf => by cases hf⟩

theorem lowerSpawnEntity_writes (p : SpawnEntityParams) :
    (ctx.lowerSpawnEntity p).Writes ctx false true := by
  unfold lowerSpawnEntity
  split
  next => exact incomplete_writes _ _
  next =>
    have position : Neutral (if p.positionMode = "absolute" then ctx.positionVector p.x p.y
        else "_transform.position + " ++ ctx.positionVector p.offsetX p.offsetY) := by
      split
      next => exact neutral_positionVector _ _
      next => exact neutral_join [.given _, .part _ (neutral_positionVector _ _)] rfl
    dsimp only
    split
    next => exact callStatement_writes (by simpa [ServiceCall.arguments] using position)
    next =>
      exact callStatement_writes (by simpa [ServiceCall.arguments, neutral_quote] using position)

theorem lowerPulse_writes (p : PulseParams) : (lowerPulse p).Writes ctx false true := by
  refine Writes.block (by simp) ?_
  refine (statement_writes (ordinary_join _ [.part _ (neutral_floatLiteral _), .given _,
    .part _ (neutral_floatLiteral _), .given _, .part _ (neutral_floatLiteral _), .given _,
    .given _] (by decide) rfl)).bind fun _ _ => ?_
  exact statement_writes (ordinary_join _ [.given _] (by decide) rfl)

/-- Running a module is labelled by a comment; what it runs is left out here. -/
theorem lowerRunModule_writes (p : RunModuleParams) :
    (ctx.lowerRunModule (some fun _ => Pure.pure ()) p).Writes ctx false true := by
  refine (writes_comment _).bind fun _ _ => IsSilent.writes ?_
  exact .ite (perform_isSilent rfl) (within_pure _)

theorem log_writes (message : String) :
    (statement ("Debug.Log(" ++ quote message ++ ")")).Writes ctx false true :=
  statement_writes (ordinary_join _ [.part _ (neutral_quote _), .given _, .given _] (by decide) rfl)

theorem rotate_writes (speed : Binary64) :
    (statement ("_transform.Rotate(0, 0, " ++ floatLiteral speed ++ " * Time.deltaTime)")).Writes ctx
      false true :=
  statement_writes (ordinary_join _ [.part _ (neutral_floatLiteral _), .given _, .given _]
    (by decide) rfl)

theorem enable_writes (enabled : Bool) :
    (statement ("gameObject.SetActive(" ++ boolLiteral enabled ++ ")")).Writes ctx false true :=
  statement_writes (ordinary_join _ [.part _ (unmarked_boolLiteral enabled).neutral, .given _,
    .given _] (by decide) rfl)

theorem lowerPlayAnimation_writes (p : PlayAnimationParams) :
    (ctx.lowerPlayAnimation p).Writes ctx false true := by
  unfold lowerPlayAnimation
  split
  next => exact incomplete_writes _ _
  next =>
    exact statement_writes (ordinary_join _ [.part _ (neutral_quote _), .given _, .given _]
      (by decide) rfl)

theorem lowerChangeScene_writes (p : ChangeSceneParams) :
    (ctx.lowerChangeScene p).Writes ctx false true := by
  unfold lowerChangeScene
  split
  next => exact incomplete_writes _ _
  next => exact callStatement_writes (by simp [ServiceCall.arguments, neutral_quote])

theorem neutral_ownPosition : Neutral "_transform.position" := by decide

/-- Each kind of action writes something, and only one of them waits. -/
theorem lowerActionKind_writes (named : ctx.Named) (params : Params) (kind : ActionKind) :
    (ctx.lowerActionKind (some fun _ => Pure.pure ()) params kind).Writes ctx (kind == .wait) true := by
  have read {σ : Type} (form : Form σ σ) {waits : Bool} {f : σ → Lowered Unit}
      (h : ∀ p, (f p).Writes ctx waits true) : (readParams form params >>= f).Writes ctx waits true :=
    (readParams_isSilent form params).writes_bind fun p _ => h p
  cases kind with
  | log => exact read _ fun p => log_writes p.message
  | move => exact read _ lowerMove_writes
  | rotate => exact read _ fun p => rotate_writes p.speed
  | chaseTarget => exact read _ lowerChaseTarget_writes
  | moveToward => exact read _ lowerMoveToward_writes
  | setVar => exact read _ (lowerSetVar_writes named)
  | incrementVar => exact read _ (lowerIncrementVar_writes named)
  | wait => exact read _ lowerWait_writes
  | enable => exact read _ fun p => enable_writes p.enabled
  | changeScene => exact read _ lowerChangeScene_writes
  | destroy =>
    exact read _ fun _ => statement_writes (ordinary_join _ [.given _] (by decide) rfl)
  | takeDamage => exact read _ (lowerHealth_writes named (.inl rfl) _)
  | heal => exact read _ (lowerHealth_writes named (.inr rfl) _)
  | attack => exact read _ lowerAttack_writes
  | fireProjectile =>
    exact read _ fun p => callStatement_writes (by
      simp [ServiceCall.arguments, neutral_quote, neutral_floatLiteral, neutral_ownPosition,
        lengthLiteral])
  | spawnEntity => exact read _ lowerSpawnEntity_writes
  | playAnimation => exact read _ lowerPlayAnimation_writes
  | pulse => exact read _ lowerPulse_writes
  | playParticle =>
    exact read _ fun p => callStatement_writes (by
      simp [ServiceCall.arguments, neutral_quote, neutral_floatLiteral, neutral_ownPosition])
  | startParticleEmitter => exact read _ fun p => writes_comment _
  | stopParticleEmitter => exact read _ fun p => writes_comment _
  | playSound =>
    exact read _ fun p => callStatement_writes (by simp [ServiceCall.arguments, neutral_quote])
  | emitEventSignal =>
    exact read _ fun p => callStatement_writes (by simp [ServiceCall.arguments, neutral_quote])
  | clearSignal =>
    exact read _ fun p => callStatement_writes (by simp [ServiceCall.arguments, neutral_quote])
  | showDialogue =>
    exact read _ fun p => callStatement_writes (by simp [ServiceCall.arguments, neutral_quote])
  | runModule => exact read _ lowerRunModule_writes

end Context

theorem initialValue_initial {declared ident : String} {value : Value} {text : String}
    (h : (initialValue declared ident value).result = .ok text) : Initial text := by
  unfold initialValue at h
  dsimp only at h
  split at h
  next =>
    split at h
    next =>
      obtain ⟨_, -, h⟩ := bind_result_ok h
      cases h
    next => cases h
  next =>
    obtain ⟨_, -, h⟩ := bind_result_ok h
    split at h
    next =>
      obtain ⟨_, -, h⟩ := bind_result_ok h
      exact initial_initialLiteral h
    next => exact initial_initialLiteral h

/-- What declares a variable: the type and the name of its field, and what the field starts with. -/
theorem declaration_text {v : Variable} {ident text : String}
    (h : (declaration v ident).result = .ok text) : ∃ literal, Initial literal ∧
      text = "public " ++ v.fieldType.keyword ++ " " ++ ident ++ " = " ++ literal ++ ";" := by
  unfold declaration at h
  split at h
  next object =>
    have declared (literal : String) : "public object " ++ ident ++ " = " ++ literal ++ ";" =
        "public " ++ v.fieldType.keyword ++ " " ++ ident ++ " = " ++ literal ++ ";" := by
      rw [object]
      rfl
    split at h
    next =>
      obtain ⟨_, -, h⟩ := bind_result_ok h
      obtain ⟨literal, hl, h⟩ := bind_result_ok h
      cases h
      exact ⟨literal, initial_objectLiteral hl, declared literal⟩
    next =>
      obtain ⟨literal, hl, h⟩ := bind_result_ok h
      cases h
      exact ⟨literal, initial_objectLiteral hl, declared literal⟩
  next =>
    obtain ⟨literal, hl, h⟩ := bind_result_ok h
    cases h
    exact ⟨literal, initialValue_initial hl, rfl⟩

/-- The declaration of a variable is an ordinary line. -/
theorem declaration_ordinary {ctx : Context} {v : Variable} {ident text : String}
    (hi : Neutral ident) (h : (declaration v ident).result = .ok text) : ctx.Ordinary text := by
  have keyword : Neutral v.fieldType.keyword := by cases v.fieldType <;> decide
  obtain ⟨literal, hl, rfl⟩ := declaration_text h
  exact Context.ordinary_join _ [.part _ keyword, .given _, .part _ hi, .given _,
    .part _ hl.neutral, .given _] (by decide) rfl

theorem declareFrom_writes {ctx : Context} (entity : String) (taken : List String)
    (vars : List Variable) : (declareFrom entity taken vars).Writes ctx false false := by
  induction vars generalizing taken with
  | nil => exact IsSilent.writes (within_pure ())
  | cons v vars ih =>
    unfold declareFrom
    dsimp only
    split
    next =>
      refine (perform_isSilent rfl).writes_bind fun _ _ => ?_
      exact (writes_comment _).bind fun _ _ => ih _
    next =>
      refine (declaration_isSilent _ _).writes_bind fun text ht => ?_
      have ident := (isName_sanitize v.name).unmarked.neutral
      exact (writes_line (declaration_ordinary ident ht)).bind fun _ _ => ih _

end GraphScript
