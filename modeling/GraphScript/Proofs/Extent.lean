import GraphScript.Lowering.Session
import GraphScript.Proofs.Limit
import GraphScript.Proofs.Scope

namespace GraphScript

open Lowered CSharp

/-- A passage of few lines, none of them deep, that encloses its locals. -/
structure Passage.Tidy (ctx : Context) (count height : Nat) (p : Passage) : Prop where
  few : p.lines.length ≤ count
  low : ∀ line ∈ p.lines, line.depth ≤ height
  enclosed : ctx.Named → Enclosed 0 p.marks

theorem Passage.tidy_single {ctx : Context} {count height : Nat} {p : Passage} {text : String}
    (single : p.lines = [⟨0, text⟩]) (other : ctx.Named → Mark.of text = .other) :
    p.Tidy ctx (count + 1) height := by
  refine ⟨?_, ?_, fun named => ?_⟩
  · rw [single]
    exact Nat.succ_le_succ (Nat.zero_le _)
  · intro line hl
    rw [single] at hl
    cases List.mem_singleton.mp hl
    exact Int.natCast_nonneg _
  · rw [marks, texts, single]
    show Enclosed 0 [Mark.of text]
    rw [other named]
    exact .other

namespace Lowered

variable {α β : Type}

/-- What a lowering writes is tidy, if it ends. -/
def Tidy (ctx : Context) (count height : Nat) (x : Lowered α) : Prop :=
  ∀ a, x.result = .ok a → ∃ p : Passage, x.pieces = p.pieces ∧ p.Tidy ctx count height

variable {ctx : Context} {count count' height height' : Nat} {x : Lowered α}

theorem Tidy.mono (h : x.Tidy ctx count height) (hc : count ≤ count') (hh : height ≤ height') :
    x.Tidy ctx count' height' := by
  intro a ha
  obtain ⟨p, hp, few, low, enclosed⟩ := h a ha
  refine ⟨p, hp, by omega, fun line hl => ?_, enclosed⟩
  have := low line hl
  omega

theorem Tidy.bind {f : α → Lowered β} (h : x.Tidy ctx count height)
    (h' : ∀ a, x.result = .ok a → (f a).Tidy ctx count' height) :
    (x >>= f).Tidy ctx (count + count') height := by
  intro b hb
  obtain ⟨a, ha, hb⟩ := bind_result_ok hb
  obtain ⟨p, hp, few, low, enclosed⟩ := h a ha
  obtain ⟨q, hq, few', low', enclosed'⟩ := h' a ha b hb
  refine ⟨.seq p q, ?_, ?_, ?_, ?_⟩
  · rw [pieces_of_ok ha, hp, hq]
    rfl
  · rw [Passage.lines, List.length_append]
    omega
  · exact List.forall_mem_append.mpr ⟨low, low'⟩
  · intro named
    rw [Passage.marks_seq]
    exact (enclosed named).append (enclosed' named)

/-- What writes nothing adds nothing to what is written next. -/
theorem tidy_after {f : α → Lowered β} (h : x.pieces = [])
    (h' : ∀ a, x.result = .ok a → (f a).Tidy ctx count height) : (x >>= f).Tidy ctx count height := by
  intro b hb
  obtain ⟨a, ha, hb⟩ := bind_result_ok hb
  obtain ⟨p, hp, tidy⟩ := h' a ha b hb
  refine ⟨p, ?_, tidy⟩
  rw [pieces_of_ok ha, h, hp]
  rfl

theorem tidy_of_pieces (h : x.pieces = []) : x.Tidy ctx count height :=
  fun _ _ => ⟨.empty, h, Nat.zero_le _, (fun _ hl => by cases hl), fun _ => .nil⟩

theorem IsSilent.tidy (h : x.IsSilent ctx.config) : x.Tidy ctx count height :=
  tidy_of_pieces h.pieces_eq_nil

theorem IsSilent.tidy_bind {f : α → Lowered β} (h : x.IsSilent ctx.config)
    (h' : ∀ a, x.result = .ok a → (f a).Tidy ctx count height) : (x >>= f).Tidy ctx count height :=
  tidy_after h.pieces_eq_nil h'

theorem tidy_line {text : String} (h : ctx.Named → Mark.of text = .other) :
    (line text).Tidy ctx (count + 1) height :=
  fun _ _ => ⟨.line text, rfl, Passage.tidy_single rfl h⟩

theorem tidy_comment (text : String) : (comment text).Tidy ctx (count + 1) height :=
  fun _ _ => ⟨.comment text, rfl, Passage.tidy_single rfl fun _ => Mark.of_comment text⟩

/-- A statement that begins with a word of its own. -/
theorem tidy_opened {start : String} (rest : List String)
    (h : (start.toList.head?.any fun c => !(['\x7b', '\x7d', 'v', 'V', 'f'].contains c)) = true) :
    (line (rest.foldl (· ++ ·) start)).Tidy ctx (count + 1) height :=
  tidy_line fun _ => Mark.of_opened start rest h

/-- A statement that begins with a name and an operator. -/
theorem tidy_named {name operator : String} {c : Char} (hn : ctx.Named → IsName name)
    (ho : [' ', c] <+: operator.toList) (hc : c ∈ ['=', '+', '-']) (rest : List String) :
    (line (rest.foldl (· ++ ·) (name ++ operator))).Tidy ctx (count + 1) height :=
  tidy_line fun named => Mark.of_operator (hn named) ho hc rest

theorem fallback_tidy (entity : String) (reason : Fallback) :
    (fallback entity reason).Tidy ctx (count + 1) height := by
  refine tidy_after rfl fun _ _ => ?_
  split
  next => exact tidy_comment _
  next => exact IsSilent.tidy (within_pure ())

theorem Tidy.block {header : String} {body : Lowered Unit} (hh : Mark.of header = .other)
    (h : body.Tidy ctx count height) : (block (some header) body).Tidy ctx (count + 3) (height + 1) := by
  intro a ha
  obtain ⟨_, -, hb⟩ := bind_result_ok ha
  obtain ⟨_, hb, -⟩ := bind_result_ok hb
  obtain ⟨p, hp, few, low, enclosed⟩ := h _ hb
  refine ⟨.block (some header) p, ?_, ?_, ?_, fun named =>
    (Passage.enclosed_block hh (enclosed named)).mono (Nat.zero_le _)⟩
  · have inside : (do body; perform (.write .close) : Lowered Unit).pieces =
        p.pieces ++ [Piece.close] := by
      rw [pieces_of_ok hb, hp]
      rfl
    change (perform _ >>= _).pieces = _
    rw [pieces_of_ok (result_perform _), inside]
    rfl
  · simp only [Passage.lines, Option.toList_some, List.map_cons, List.map_nil, List.length_append,
      List.length_cons, List.length_nil, List.length_map]
    omega
  · intro line hl
    simp only [Passage.lines, List.mem_append, List.mem_cons, List.mem_map, List.not_mem_nil,
      or_false] at hl
    obtain ⟨_, -, rfl⟩ | rfl | ⟨inner, hi, rfl⟩ | rfl := hl
    · exact Int.natCast_nonneg _
    · exact Int.natCast_nonneg _
    · have := low inner hi
      rw [Line.shift_depth]
      omega
    · exact Int.natCast_nonneg _

end Lowered

namespace Context

variable {ctx : Context} {count height : Nat}

theorem incomplete_tidy (note comment : String) :
    (ctx.incomplete note comment).Tidy ctx (count + 1) height :=
  tidy_after rfl fun _ _ => tidy_comment comment

theorem callStatement_tidy (c : ServiceCall) :
    (do statement (← ctx.call c) : Lowered Unit).Tidy ctx (count + 1) height := by
  refine (call_isSilent c).tidy_bind fun text ht => tidy_line fun _ => ?_
  rw [call_result ht]
  exact Mark.of_begins (c.begins_render _ _) (by decide)

theorem lowerChaseTarget_tidy (p : ChaseTargetParams) : (ctx.lowerChaseTarget p).Tidy ctx 9 3 := by
  have find : Mark.of ("var target = GameObject.Find(" ++ quote p.targetId ++ ")" ++ ";") =
      .declares "target" :=
    Mark.of_declared (by decide : ("var target = ", "target") ∈ Mark.starts)
      "var target = GameObject.Find(" [_, _, _] (by decide)
  have move : Mark.of ("_transform.Translate(dir * " ++ ctx.lengthLiteral p.speed ++
      " * Time.deltaTime)" ++ ";") = .other :=
    Mark.of_opened "_transform.Translate(dir * " [_, _, _] (by decide)
  have inner : Enclosed 0 [.opening, .declares "dir", .other, .closing] :=
    @Enclosed.scope [.declares "dir", .other] [] (by decide) (by decide) .nil (by decide)
  have outer := @Enclosed.scope [.declares "target", .other] _ (by decide) (by decide) inner (by decide)
  refine fun _ _ => ⟨.seq (.comment _) (.block none (.seq (.line _) (.block (some _)
    (.seq (.line _) (.line _))))), rfl, Nat.le_refl 9, ?_, fun _ => ?_⟩
  · simp [Passage.lines]
  · simp only [Passage.marks_seq, Passage.marks_block, Passage.marks_line, Passage.marks_comment, find,
      move]
    exact Enclosed.other.append outer

theorem lowerMoveToward_tidy (p : MoveTowardParams) : (ctx.lowerMoveToward p).Tidy ctx 9 3 := by
  have goal : Mark.of ("Vector3 targetPos = " ++ ctx.positionVector p.x p.y ++ ";") =
      .declares "targetPos" :=
    Mark.of_declared (by decide : ("Vector3 targetPos = ", "targetPos") ∈ Mark.starts)
      "Vector3 targetPos = " [_, _] (by decide)
  have test : Mark.of ("if (Vector3.Distance(_transform.position, targetPos) > " ++
      floatLiteral ctx.config.arriveEpsilon ++ ")") = .other :=
    Mark.of_opened "if (Vector3.Distance(_transform.position, targetPos) > " [_, _] (by decide)
  have move : Mark.of ("_transform.Translate(direction * " ++ ctx.lengthLiteral p.speed ++
      " * Time.deltaTime)" ++ ";") = .other :=
    Mark.of_opened "_transform.Translate(direction * " [_, _, _] (by decide)
  have inner : Enclosed 0 [.opening, .other, .closing] :=
    @Enclosed.scope [.other] [] (by decide) (by decide) .nil (by decide)
  have outer := @Enclosed.scope [.declares "targetPos", .declares "direction", .other] _ (by decide)
    (by decide) inner (by decide)
  refine fun _ _ => ⟨.seq (.comment _) (.block none (.seq (.line _) (.seq (.line _)
    (.block (some _) (.line _))))), rfl, Nat.le_refl 9, ?_, fun _ => ?_⟩
  · simp [Passage.lines]
  · simp only [Passage.marks_seq, Passage.marks_block, Passage.marks_line, Passage.marks_comment,
      Option.toList_some, List.map_cons, goal, test, move]
    exact Enclosed.other.append outer

theorem lowerAttack_tidy (p : AttackParams) : (ctx.lowerAttack p).Tidy ctx 9 3 := by
  have around : Mark.of ("var hits = Physics2D.OverlapCircleAll(_transform.position, " ++
      ctx.lengthLiteral p.range ++ ")" ++ ";") = .declares "hits" :=
    Mark.of_declared (by decide : ("var hits = ", "hits") ∈ Mark.starts)
      "var hits = Physics2D.OverlapCircleAll(_transform.position, " [_, _, _] (by decide)
  have send : Mark.of ("hit.SendMessage(\"OnTakeDamage\", " ++ floatLiteral p.damage ++
      ", SendMessageOptions.DontRequireReceiver)" ++ ";") = .other :=
    Mark.of_opened "hit.SendMessage(\"OnTakeDamage\", " [_, _, _] (by decide)
  have inner : Enclosed 0 [.opening, .other, .other, .closing] :=
    @Enclosed.scope [.other, .other] [] (by decide) (by decide) .nil (by decide)
  have outer := @Enclosed.scope [.declares "hits", .declares "hit"] _ (by decide) (by decide) inner
    (by decide)
  refine fun _ _ => ⟨.seq (.comment _) (.block none (.seq (.line _) (.block (some _)
    (.under hitLine _)))), rfl, Nat.le_refl 9, ?_, fun _ => ?_⟩
  · simp [Passage.lines]
  · simp only [Passage.marks_seq, Passage.marks_block, Passage.marks_line, Passage.marks_under,
      Passage.marks_comment, around, send]
    exact Enclosed.other.append outer

theorem lowerPulse_tidy (p : PulseParams) : (lowerPulse p).Tidy ctx 9 3 := by
  have swing : Mark.of ("float pulse = Mathf.Lerp(" ++ floatLiteral p.minScale ++ ", " ++
      floatLiteral p.maxScale ++ ", (Mathf.Sin(Time.time * " ++ floatLiteral p.speed ++
      ") + 1f) / 2f)" ++ ";") = .declares "pulse" :=
    Mark.of_declared (by decide : ("float pulse = ", "pulse") ∈ Mark.starts)
      "float pulse = Mathf.Lerp(" [_, _, _, _, _, _, _] (by decide)
  have scope := @Enclosed.scope [.declares "pulse", .other] _ (by decide) (by decide) .nil (by decide)
  refine fun _ _ => ⟨.block none (.seq (.line _) (.line _)), rfl, ?_, ?_, fun _ => ?_⟩
  · show 4 ≤ 9
    omega
  · simp [Passage.lines]
  · simp only [Passage.marks_seq, Passage.marks_block, Passage.marks_line, swing]
    exact scope

theorem assigned_tidy (name : String) (rest : List String) :
    (line (rest.foldl (· ++ ·) (ctx.identifier name ++ " = "))).Tidy ctx (count + 1) height :=
  tidy_named (c := '=') (fun named => isName_identifier named.names name) (by decide) (by decide) rest

theorem lowerDivide_tidy (name first second zero : String) :
    (lowerDivide (ctx.identifier name) first second zero).Tidy ctx (count + 1) height := by
  have constant : (ofExcept (constantValue second)).IsSilent ctx.config := within_ofExcept _
  refine constant.tidy_bind fun value _ => ?_
  cases value with
  | none => exact assigned_tidy name [_, _, _, _, _, _, _, _]
  | some x =>
    dsimp only
    split
    next => exact assigned_tidy name [_, _]
    next => exact assigned_tidy name [_, _, _, _, _, _, _, _]

theorem lowerSetVar_tidy (p : SetVarParams) : (ctx.lowerSetVar p).Tidy ctx (count + 1) height := by
  unfold lowerSetVar
  split
  next => exact incomplete_tidy _ _
  next =>
    refine (operand_isSilent _ _).tidy_bind fun first _ => ?_
    refine (operand_isSilent _ _).tidy_bind fun second _ => ?_
    dsimp only
    split
    next => exact assigned_tidy p.name [_, _, _, _, _, _]
    next =>
      split
      next => exact lowerDivide_tidy p.name _ _ _
      next =>
        split
        next => exact tidy_after rfl fun _ _ => assigned_tidy p.name [_, _]
        next => exact assigned_tidy p.name [_, _]

theorem lowerIncrementVar_tidy (p : IncrementVarParams) :
    (ctx.lowerIncrementVar p).Tidy ctx (count + 1) height := by
  have target (named : ctx.Named) := isName_identifier named.names p.name
  unfold lowerIncrementVar
  split
  next => exact incomplete_tidy _ _
  next =>
    dsimp only
    split
    next =>
      split
      next =>
        refine tidy_after rfl fun _ _ => ?_
        exact tidy_named (c := '+') target (by decide) (by decide) [_, _, _]
      next => exact tidy_named (c := '+') target (by decide) (by decide) [_]
    next => exact tidy_named (c := '+') target (by decide) (by decide) [_, _]

theorem lowerHealth_tidy {sign : String} {c : Char} (hs : sign.toList = [c]) (hc : c ∈ ['=', '+', '-'])
    (label : String) (p : HealthParams) : (ctx.lowerHealth sign label p).Tidy ctx 2 height := by
  refine health_isSilent.tidy_bind fun health hh => ?_
  cases hh
  have said : (comment (label ++ ": " ++ p.amount.briefText)).Tidy ctx 1 height := tidy_comment _
  have changed : (statement (ctx.config.healthField ++ " " ++ sign ++ "= " ++
      numberLiteral (ctx.typeOf ctx.config.healthField) p.amount)).Tidy ctx 1 height := by
    have start := prefix_foldl (ctx.config.healthField ++ " " ++ sign)
      ["= ", numberLiteral (ctx.typeOf ctx.config.healthField) p.amount, ";"]
    rw [String.toList_append, String.toList_append, hs, List.append_assoc] at start
    exact tidy_line fun named => Mark.of_name named.health hc start
  exact said.bind fun _ _ => changed

theorem lowerSpawnEntity_tidy (p : SpawnEntityParams) :
    (ctx.lowerSpawnEntity p).Tidy ctx (count + 1) height := by
  unfold lowerSpawnEntity
  split
  next => exact incomplete_tidy _ _
  next =>
    dsimp only
    split
    next => exact callStatement_tidy _
    next => exact callStatement_tidy _

theorem lowerChangeScene_tidy (p : ChangeSceneParams) :
    (ctx.lowerChangeScene p).Tidy ctx (count + 1) height := by
  unfold lowerChangeScene
  split
  next => exact incomplete_tidy _ _
  next => exact callStatement_tidy _

theorem lowerPlayAnimation_tidy (p : PlayAnimationParams) :
    (ctx.lowerPlayAnimation p).Tidy ctx (count + 1) height := by
  unfold lowerPlayAnimation
  split
  next => exact incomplete_tidy _ _
  next => exact tidy_opened [_, _, _] (by decide)

theorem lowerWait_tidy (p : WaitParams) : (lowerWait p).Tidy ctx (count + 1) height :=
  fun _ _ => ⟨.wait (floatLiteral p.seconds), rfl, Passage.tidy_single rfl fun _ => Mark.of_wait _⟩

/-- Running a module is labelled by a comment; what it runs is left out here. -/
theorem lowerRunModule_tidy (p : RunModuleParams) :
    (ctx.lowerRunModule (some fun _ => Pure.pure ()) p).Tidy ctx 1 height := by
  have said : (comment ("RunModule: " ++ p.moduleId)).Tidy ctx 1 height := tidy_comment _
  have nothing : (if p.moduleId = "" then
      note "actions" .warning ("RunModule without a module id on entity " ++ ctx.entity.id)
      else Pure.pure () : Lowered Unit).Tidy ctx 0 height :=
    IsSilent.tidy (.ite (perform_isSilent rfl) (within_pure _))
  exact said.bind fun _ _ => nothing

/-- No action writes more than nine lines, and none of its lines stands more than three deep. -/
theorem lowerActionKind_tidy (params : Params) (kind : ActionKind) :
    (ctx.lowerActionKind (some fun _ => Pure.pure ()) params kind).Tidy ctx 9 3 := by
  have read {σ : Type} (form : Form σ σ) {f : σ → Lowered Unit} (h : ∀ p, (f p).Tidy ctx 9 3) :
      (readParams form params >>= f).Tidy ctx 9 3 :=
    (readParams_isSilent form params).tidy_bind fun p _ => h p
  have call {σ : Type} (form : Form σ σ) (c : σ → ServiceCall) :
      (readParams form params >>= fun p => (do statement (← ctx.call (c p)) : Lowered Unit)).Tidy
        ctx 9 3 :=
    read form fun p => callStatement_tidy (c p)
  cases kind with
  | log => exact read _ fun p => tidy_opened [_, _, _] (by decide)
  | move => exact read _ fun p => tidy_opened [_, _, _, _, _] (by decide)
  | rotate => exact read _ fun p => tidy_opened [_, _, _] (by decide)
  | chaseTarget => exact read _ lowerChaseTarget_tidy
  | moveToward => exact read _ lowerMoveToward_tidy
  | setVar => exact read _ lowerSetVar_tidy
  | incrementVar => exact read _ lowerIncrementVar_tidy
  | wait => exact read _ lowerWait_tidy
  | enable => exact read _ fun p => tidy_opened [_, _, _] (by decide)
  | changeScene => exact read _ lowerChangeScene_tidy
  | destroy => exact read _ fun _ => tidy_opened [_] (by decide)
  | takeDamage =>
    exact read _ fun p => (lowerHealth_tidy (c := '-') (by decide) (by decide) _ p).mono (by decide)
      (Nat.le_refl 3)
  | heal =>
    exact read _ fun p => (lowerHealth_tidy (c := '+') (by decide) (by decide) _ p).mono (by decide)
      (Nat.le_refl 3)
  | attack => exact read _ lowerAttack_tidy
  | fireProjectile => exact call _ _
  | spawnEntity => exact read _ lowerSpawnEntity_tidy
  | playAnimation => exact read _ lowerPlayAnimation_tidy
  | pulse => exact read _ lowerPulse_tidy
  | playParticle => exact call _ _
  | startParticleEmitter => exact read _ fun p => tidy_comment _
  | stopParticleEmitter => exact read _ fun p => tidy_comment _
  | playSound => exact call _ _
  | emitEventSignal => exact call _ _
  | clearSignal => exact call _ _
  | showDialogue => exact call _ _
  | runModule => exact read _ fun p => (lowerRunModule_tidy p).mono (by decide) (Nat.le_refl 3)

theorem label_tidy (action : Option String) (params : Params) :
    (ctx.lowerAction (some fun _ => Pure.pure ()) action params).Tidy ctx 9 3 := by
  unfold lowerAction
  cases action with
  | none => exact IsSilent.tidy (within_pure ())
  | some name =>
    dsimp only
    split
    next => exact IsSilent.tidy (within_pure ())
    next =>
      split
      next => exact fallback_tidy _ _
      next kind _ => exact (perform_isSilent rfl).tidy_bind fun _ _ => lowerActionKind_tidy params kind

/-- The label of an action that runs a module is one line. -/
theorem caller_tidy {node : Node} {id : String} (hc : node.calledModule? = some id) :
    (ctx.lowerAction (some fun _ => Pure.pure ()) node.action node.params).Tidy ctx 1 height := by
  obtain ⟨name, action, kind, -, -⟩ := Node.calledModule?_eq_some hc
  have given : name ≠ "" := by
    rintro rfl
    cases kind
  rw [action, lowerAction]
  simp only [if_neg given, kind]
  refine (perform_isSilent rfl).tidy_bind fun _ _ => ?_
  exact (readParams_isSilent RunModuleParams.form node.params).tidy_bind fun p _ => lowerRunModule_tidy p

/-- A walk writes at most nine lines for each node that it visits, and one at its end. It goes as deep as
the path has room, and its last action two deeper. -/
theorem Plans.tidy {path : Path} {module : Module} {start : Option Node} {walk : Walk}
    (h : ctx.Plans path module start walk) : (ctx.lowerWalk walk).Tidy ctx
      (9 * walk.visits.length + 1) (ctx.config.maxTraversalDepth - path.length + 2) := by
  -- what follows a node has one step less of room
  have onward {x : Lowered Unit} {path : Path} {step : String × String} {count : Nat}
      (hx : x.Tidy ctx count (ctx.config.maxTraversalDepth - (path ++ [step]).length + 2)) :
      x.Tidy ctx count (ctx.config.maxTraversalDepth - path.length + 2) := by
    rw [List.length_append] at hx
    exact hx.mono (Nat.le_refl _) (by omega)
  induction h with
  | done => exact IsSilent.tidy (within_pure ())
  | cut => exact fallback_tidy _ _
  | stop => exact tidy_of_pieces rfl
  | pass _ _ _ ih =>
    refine tidy_after rfl fun _ _ => ?_
    have further := (onward ih).mono (Nat.le_add_right _ 9) (Nat.le_refl _)
    split
    next => exact (perform_isSilent rfl).tidy_bind fun _ _ => further
    next => exact further
  | @branch path module node yes no admits _ _ _ ihy ihn =>
    have room : path.length < ctx.config.maxTraversalDepth := admits.2
    have other : Mark.of "else" = .other := by decide
    refine tidy_after rfl fun _ _ => (lowerConditionNode_isSilent node).tidy_bind fun text _ => ?_
    have test : Mark.of ("if (" ++ text ++ ")") = .other := Mark.of_opened "if (" [text, ")"] (by decide)
    have both := (Tidy.block test ihy).bind fun _ _ => Tidy.block other ihn
    rw [List.length_append, List.length_singleton] at both
    refine both.mono ?_ (by omega)
    rw [Walk.visits, List.length_cons, List.length_append]
    omega
  | @act path module node rest admits _ hc _ ih =>
    have room : path.length < ctx.config.maxTraversalDepth := admits.2
    have own := (@label_tidy ctx node.action node.params).mono (Nat.le_refl 9)
      (by omega : 3 ≤ ctx.config.maxTraversalDepth - path.length + 2)
    refine tidy_after rfl fun _ _ => ?_
    rw [lowerAction_plain hc _ fun _ => Pure.pure ()]
    refine (own.bind fun _ _ => onward ih).mono ?_ (Nat.le_refl _)
    rw [Walk.visits, Walk.visits, List.length_cons, List.nil_append]
    omega
  | @refuse path module node _ reason rest _ _ hc _ _ ih =>
    have cut : (fallback ctx.entity.id reason).Tidy ctx 1
        (ctx.config.maxTraversalDepth - path.length + 2) := fallback_tidy _ _
    refine tidy_after rfl fun _ _ => ?_
    rw [lowerAction_calls hc, bind_assoc]
    refine ((caller_tidy hc).bind fun _ _ => cut.bind fun _ _ => onward ih).mono ?_ (Nat.le_refl _)
    rw [Walk.visits, Walk.visits, List.length_cons, List.nil_append]
    omega
  | call _ _ hc _ _ _ ihi ih =>
    refine tidy_after rfl fun _ _ => ?_
    rw [lowerAction_calls hc, bind_assoc]
    refine ((caller_tidy hc).bind fun _ _ => (onward ihi).bind fun _ _ => onward ih).mono ?_
      (Nat.le_refl _)
    rw [Walk.visits, List.length_cons, List.length_append]
    omega

end Context

/-- The nodes of a plan under a budget are those that the budget is charged with. -/
theorem Walk.visits_limit (cap : Nat) (w : Walk) (budget : Nat) :
    (w.limit cap budget).1.visits.length + (w.limit cap budget).2 = budget := by
  induction w generalizing budget with
  | done => simp [limit, visits]
  | cut => simp [limit, visits]
  | stop v => cases budget <;> simp [limit, visits, exhausted]; omega
  | pass v rest ih =>
    cases budget with
    | zero => simp [limit, visits, exhausted]
    | succ budget =>
      have := ih budget
      simp only [limit, visits, List.length_cons]
      omega
  | perform v inlined rest hi hr =>
    cases budget with
    | zero => simp [limit, visits, exhausted]
    | succ budget =>
      have := hi budget
      have := hr (inlined.limit cap budget).2
      simp only [limit, visits, List.length_cons, List.length_append]
      omega
  | branch v yes no hy hn =>
    cases budget with
    | zero => simp [limit, visits, exhausted]
    | succ budget =>
      have := hy budget
      have := hn (yes.limit cap budget).2
      simp only [limit, visits, List.length_cons, List.length_append]
      omega

/-- What a walk adds to the code is bounded by the budget that it takes, and its depth by the room that
its path has. -/
theorem Session.traverse_bounded (s : Session) (path : Path) (module : Module) (start : Option Node)
    (h : (s.context.traverse s.budget path module start).result = .ok ()) :
    ∃ lines : List Line,
      (s.after (s.context.traverse s.budget path module start)).writer.lines =
        s.writer.lines ++ lines.toArray ∧
      lines.length ≤
        9 * (s.budget - (s.after (s.context.traverse s.budget path module start)).budget) + 1 ∧
      (∀ line ∈ lines, s.writer.depth ≤ line.depth ∧ line.depth ≤
        s.writer.depth + (s.context.config.maxTraversalDepth - path.length : Nat) + 2) ∧
      (s.writer.run (s.context.traverse s.budget path module start).pieces).depth = s.writer.depth := by
  have plans : s.context.Plans path module start (s.context.plan s.budget path module start) :=
    Context.planFrom_plans rfl
  have spent : (s.context.plan s.budget path module start).visits.length ≤ s.budget := by
    have total := Walk.visits_limit s.context.config.maxEmittedNodes
      (s.context.wholePlan (s.context.config.maxTraversalDepth - path.length) path module start) s.budget
    rw [← Context.planFrom_eq_limit] at total
    exact Nat.le.intro total
  have made := plans.makes.all () h
  obtain ⟨p, pieces, few, low, -⟩ := plans.tidy () h
  refine ⟨p.lines.map (Line.shift s.writer.depth), ?_, ?_, ?_, ?_⟩
  · show (s.writer.run _).lines = _
    rw [Context.traverse, pieces, Writer.run_pieces]
    rfl
  · show _ ≤ 9 * (s.budget - (s.budget - (s.context.lowerWalk _).visits.length)) + 1
    rw [made, List.length_map]
    omega
  · intro line hl
    obtain ⟨own, ho, rfl⟩ := List.mem_map.mp hl
    have := p.depth_nonneg own ho
    have := low own ho
    rw [Line.shift_depth]
    omega
  · rw [Context.traverse, pieces, Writer.run_pieces]
    rfl

/-- A module that attacks twice. -/
def ambush : Module :=
  .make "cave" "" none [⟨"hit", "Action", some "Attack", []⟩, ⟨"again", "Action", some "Attack", []⟩]
    [⟨none, some "hit", some "out", some "again", none⟩]

def Session.ambushed (s : Session) : Lowered Unit :=
  s.context.traverse s.budget [("cave", "in")] ambush ambush.nodes.head?

/-- With room for one more step the bounds are reached: an attack, and the remark where it ends. -/
theorem Session.traverse_bounded_ambush :
    ∃ config s, { Config.Draft.default with maxTraversalDepth := 2 }.check = .ok config ∧
      s = Session.new (.of busyEntity config) true ∧ s.ambushed.result = .ok () ∧
      s.budget - (s.after s.ambushed).budget = 1 ∧
      ∃ lines : List Line, (s.after s.ambushed).writer.lines = s.writer.lines ++ lines.toArray ∧
        lines.length = 10 ∧ (∃ line ∈ lines, line.depth = 3) ∧ ∀ line ∈ lines, line.depth ≤ 3 := by
  obtain ⟨config, valid⟩ :
      ∃ config, { Config.Draft.default with maxTraversalDepth := 2 }.check = .ok config := ⟨_, rfl⟩
  have reached : (do
      let config ← { Config.Draft.default with maxTraversalDepth := 2 }.check.toOption
      let s := Session.new (.of busyEntity config) true
      s.ambushed.result.toOption
      return (s.budget - (s.after s.ambushed).budget, (s.after s.ambushed).writer.lines.size,
        (s.after s.ambushed).writer.lines.toList.any fun line => line.depth == 3)) =
          some (1, 10, true) := by
    decide +kernel
  have room : (Session.new (.of busyEntity config) true).context.config.maxTraversalDepth = 2 := by
    cases valid
    rfl
  rw [valid, Except.toOption, Option.bind_eq_bind, Option.bind_some] at reached
  refine ⟨config, Session.new (.of busyEntity config) true, valid, rfl, ?_⟩
  have clean : (Session.new (.of busyEntity config) true).writer = .new 0 := rfl
  generalize Session.new (.of busyEntity config) true = s at reached room clean ⊢
  cases ends : s.ambushed.result with
  | error => simp [ends, Except.toOption] at reached
  | ok =>
    obtain ⟨lines, added, -, low, -⟩ := s.traverse_bounded _ _ _ ends
    simp only [ends, Except.toOption, Option.bind_eq_bind, Option.bind_some, Option.pure_def,
      Option.some.injEq, Prod.mk.injEq] at reached
    obtain ⟨spent, size, deep⟩ := reached
    have written : (s.after s.ambushed).writer.lines = s.writer.lines ++ lines.toArray := added
    rw [written, clean] at size deep
    refine ⟨rfl, spent, lines, written, by simpa [Writer.new] using size,
      by simpa [Writer.new] using deep, fun line hl => ?_⟩
    have bound := (low line hl).2
    rw [room, clean] at bound
    simpa [Writer.new] using bound

end GraphScript
