import GraphScript.Proofs.Statement

namespace GraphScript

open CSharp

/-- A text that begins with one of the given starts. -/
def Begins (starts : List String) (text : String) : Prop :=
  ∃ start ∈ starts, start.toList <+: text.toList

instance (starts : List String) (text : String) : Decidable (Begins starts text) :=
  inferInstanceAs (Decidable (∃ start ∈ starts, start.toList <+: text.toList))

theorem Begins.append {starts : List String} {text : String} (h : Begins starts text)
    (rest : String) : Begins starts (text ++ rest) := by
  obtain ⟨start, hs, hp⟩ := h
  refine ⟨start, hs, ?_⟩
  rw [String.toList_append]
  exact hp.trans (List.prefix_append _ _)

theorem Begins.mono {starts more : List String} {text : String} (h : Begins starts text)
    (sub : starts ⊆ more) : Begins more text := by
  obtain ⟨start, hs, hp⟩ := h
  exact ⟨start, sub hs, hp⟩

theorem Begins.diverges {starts : List String} {text : String} (h : Begins starts text)
    {word : List Char} (apart : (starts.all fun start => diverges word start.toList) = true) :
    diverges word text.toList = true := by
  obtain ⟨start, hs, hp⟩ := h
  exact diverges_of_start (List.all_eq_true.mp apart start hs) hp

/-- How the statements begin that assign no variable, change no number and call no service. -/
def openings : List String :=
  ["_transform", "_animator = ", "_context = ", "if (_animator", "if (hit", "hit.", "var ",
   "Vector3 ", "float ", "yield ", "Debug", "Destroy", "gameObject"]

/-- How the headers begin that stand above the blocks of actions and above the other branch of a
condition. -/
def headings : List String :=
  ["if (target", "if (Vector3", "foreach ", "else"]

/-- How a call of a service begins. -/
def Service.opening : ServiceMode → Service → String
  | .context, _ => "_context"
  | .static, .spawn => "PrefabRegistry.SpawnStatic("
  | .static, .spawnSelf => "PrefabRegistry.SpawnSelfStatic("
  | .static, .playParticle => "ParticleManager.PlayStatic("
  | .static, .playSound => "AudioManager.PlayStatic("
  | .static, .fireProjectile => "ProjectileManager.FireStatic("
  | .static, .emitSignal => "EventBus.Emit("
  | .static, .clearSignal => "EventBus.Clear("
  | .static, .showDialogue => "DialogueManager.Show("
  | .static, .changeScene => "SceneManager.LoadScene("
  | .static, .cooldown => "CooldownManager.TryUse("

theorem prefix_foldl (start : String) (rest : List String) :
    start.toList <+: (rest.foldl (· ++ ·) start).toList := by
  induction rest generalizing start with
  | nil => exact List.prefix_rfl
  | cons text rest ih =>
    refine List.IsPrefix.trans ?_ (ih (start ++ text))
    rw [String.toList_append]
    exact List.prefix_append _ _

theorem ServiceCall.render_opening (mode : ServiceMode) (c : ServiceCall) :
    (c.service.opening mode).toList <+: (c.render mode).toList := by
  cases mode with
  | context =>
    cases c with
    | spawn => exact prefix_foldl _ [_, _, _, _, _]
    | spawnSelf => exact prefix_foldl _ [_, _, _]
    | playParticle => exact prefix_foldl _ [_, _, _, _, _, _, _]
    | playSound => exact prefix_foldl _ [_, _, _]
    | fireProjectile => exact prefix_foldl _ [_, _, _, _, _, _, _, _, _]
    | emitSignal => exact prefix_foldl _ [_, _, _]
    | clearSignal => exact prefix_foldl _ [_, _, _]
    | showDialogue => exact prefix_foldl _ [_, _, _]
    | changeScene => exact prefix_foldl _ [_, _, _]
    | cooldown => exact prefix_foldl _ [_, _, _, _, _, _, _]
  | static =>
    cases c with
    | spawn => exact prefix_foldl _ [_, _, _, _]
    | spawnSelf position =>
      have start : "PrefabRegistry.SpawnSelfStatic(".toList <+:
          "PrefabRegistry.SpawnSelfStatic(gameObject, ".toList := by decide
      exact start.trans (prefix_foldl _ [position, ")"])
    | playParticle => exact prefix_foldl _ [_, _, _, _, _, _]
    | playSound => exact prefix_foldl _ [_, _]
    | fireProjectile => exact prefix_foldl _ [_, _, _, _, _, _, _, _]
    | emitSignal => exact prefix_foldl _ [_, _]
    | clearSignal => exact prefix_foldl _ [_, _]
    | showDialogue => exact prefix_foldl _ [_, _]
    | changeScene => exact prefix_foldl _ [_, _]
    | cooldown => exact prefix_foldl _ [_, _, _, _]

/-- How the calls of all services begin. -/
def callOpenings : List String :=
  ["_context", "P", "A", "E", "D", "S", "C"]

theorem ServiceCall.begins_render (mode : ServiceMode) (c : ServiceCall) (rest : String) :
    Begins callOpenings (c.render mode ++ rest) := by
  have known : Begins callOpenings (c.service.opening mode) := by
    cases mode <;> cases c.service <;> decide
  obtain ⟨start, hs, hp⟩ := known
  have rendered : Begins callOpenings (c.render mode) :=
    ⟨start, hs, hp.trans (render_opening mode c)⟩
  exact rendered.append rest

/-- What a statement can be, if the variables with the given names are assigned to: one that starts
with a known word, an assignment, or a change of a number. -/
inductive Phrase (ctx : Context) (names : List String) (text : String) : Prop
  | opened : Begins openings text → Phrase ctx names text
  | assigned {name : String} : name ∈ names → IsName (ctx.identifier name) →
      (ctx.identifier name).toList ++ [' ', '=', ' '] <+: text.toList → Phrase ctx names text
  | changed {name : String} {sign : Char} : IsName name → sign ∈ ['+', '-'] →
      name.toList ++ [' ', sign, '='] <+: text.toList → Phrase ctx names text

/-- How a condition begins: with a name, or with one of two words. -/
inductive Tests (text : String) : Prop
  | named {name : String} : IsName name → name.toList ++ [' '] <+: text.toList → Tests text
  | given : Begins ["true", "Input."] text → Tests text

/-- What can stand above a block. -/
inductive Heading (text : String) : Prop
  | opened : Begins headings text → Heading text
  | tests {condition : String} : Tests condition → text = "if (" ++ condition ++ ")" → Heading text

/-- Whether a dot ends the first word, so that it is no name. -/
def isDotted (start : List Char) : Bool :=
  (start.dropWhile fun c => c != ' ' && c != '.').head? == some '.'

/-- Whether a blank ends the first word, and what comes next is no operator that changes a variable. -/
def isParted (start : List Char) : Bool :=
  match start.dropWhile (· != ' ') with
  | ' ' :: c :: _ => !(['=', '+', '-'].contains c)
  | _ => false

/-- A word with a dot behind it, against a name with a blank behind it. -/
theorem diverges_of_dot {word name : List Char} (hw : ' ' ∉ word) (hn : '.' ∉ name)
    (more rest : List Char) : diverges (word ++ '.' :: more) (name ++ ' ' :: rest) = true := by
  induction word generalizing name with
  | nil =>
    cases name with
    | nil => rfl
    | cons d name =>
      have other : '.' ≠ d := fun h => hn (h ▸ List.mem_cons_self)
      simp [diverges, other]
  | cons c word ih =>
    cases name with
    | nil =>
      have other : c ≠ ' ' := fun h => hw (h ▸ List.mem_cons_self)
      simp [diverges, other]
    | cons d name =>
      rw [List.cons_append, List.cons_append, diverges]
      split
      next =>
        exact ih (fun hm => hw (List.mem_cons_of_mem _ hm)) fun hm => hn (List.mem_cons_of_mem _ hm)
      next => rfl

theorem isDotted_diverges {start : List Char} (h : isDotted start = true) {name : String}
    (hn : IsName name) (rest : List Char) :
    diverges start (name.toList ++ ' ' :: rest) = true := by
  let inWord (c : Char) : Bool := c != ' ' && c != '.'
  obtain ⟨more, hm⟩ := List.head?_eq_some_iff.mp (beq_iff_eq.mp h)
  have whole : start = start.takeWhile inWord ++ '.' :: more := by
    rw [← hm, List.takeWhile_append_dropWhile]
  have word : ' ' ∉ start.takeWhile inWord := by
    intro blank
    have inside := List.all_eq_true.mp List.all_takeWhile ' ' blank
    cases inside
  rw [whole]
  exact diverges_of_dot word (hn.plain '.' (by decide)) more rest

theorem isParted_diverges {start : List Char} (h : isParted start = true) {name : String}
    (hn : IsName name) {c : Char} (hc : c ∈ ['=', '+', '-']) (rest : List Char) :
    diverges start (name.toList ++ ' ' :: c :: rest) = true := by
  have blank : ' ' ∉ name.toList := fun hm => unmarked_iff.mp hn.unmarked ' ' hm (by decide)
  unfold isParted at h
  split at h
  next d more hm =>
    have other : d ≠ c := by
      rintro rfl
      rw [List.contains_iff_mem.mpr hc] at h
      cases h
    have whole : start = start.takeWhile (· != ' ') ++ ' ' :: d :: more := by
      rw [← hm, List.takeWhile_append_dropWhile]
    have word : ' ' ∉ start.takeWhile (· != ' ') := by
      intro blank
      have inside := List.all_eq_true.mp List.all_takeWhile ' ' blank
      cases inside
    rw [whole]
    exact diverges_of_next _ blank word other more rest
  next => cases h

/-- A start that no statement has: none of the known ones goes on like this, and neither does a name
with an operator. -/
structure NoPhrase (start : List Char) : Prop where
  openings : (openings.all fun opening => diverges start opening.toList) = true
  names : (isDotted start || isParted start) = true

theorem Phrase.diverges {ctx : Context} {names : List String} {text : String}
    (h : Phrase ctx names text) {start : List Char} (foreign : NoPhrase start) :
    diverges start text.toList = true := by
  have operator {name : String} {c : Char} (hn : IsName name) (hc : c ∈ ['=', '+', '-'])
      (more : List Char) : CSharp.diverges start (name.toList ++ ' ' :: c :: more) = true := by
    rcases Bool.or_eq_true_iff.mp foreign.names with dotted | parted
    · exact isDotted_diverges dotted hn _
    · exact isParted_diverges parted hn hc _
  cases h with
  | opened begins => exact begins.diverges foreign.openings
  | assigned _ hn hp => exact diverges_of_start (operator hn (by decide) _) hp
  | @changed name sign hn hs hp =>
    refine diverges_of_start (operator hn ?_ _) hp
    exact List.mem_cons_of_mem _ hs

/-- A start that no header has. -/
structure NoHeading (start : List Char) : Prop where
  headings : (headings.all fun heading => diverges start heading.toList) = true
  tests : diverges start "if (".toList = true ∨ ∃ rest, start = "if (".toList ++ rest ∧
    isDotted rest = true ∧ (["true", "Input."].all fun word => diverges rest word.toList) = true

theorem Heading.diverges {text : String} (h : Heading text) {start : List Char}
    (foreign : NoHeading start) : diverges start text.toList = true := by
  cases h with
  | opened begins => exact begins.diverges foreign.headings
  | @tests condition tests heq =>
    rw [heq, String.toList_append, String.toList_append]
    rcases foreign.tests with apart | ⟨rest, rfl, dotted, words⟩
    · refine diverges_of_start apart ?_
      rw [List.append_assoc]
      exact List.prefix_append _ _
    · have inside : CSharp.diverges rest condition.toList = true := by
        cases tests with
        | named hn hp => exact diverges_of_start (isDotted_diverges dotted hn []) hp
        | given begins => exact begins.diverges words
      rw [List.append_assoc, diverges_common]
      exact diverges_of_start inside (List.prefix_append _ _)

end GraphScript
