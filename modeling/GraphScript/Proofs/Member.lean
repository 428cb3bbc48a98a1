import GraphScript.Proofs.Lines

namespace GraphScript

open Lowered CSharp

/-- The line above the method that receives damage. -/
def damageSignature : String := "public void OnTakeDamage(float amount)"

def FieldType.all : List FieldType := [int, float, bool, string, vector2, object]

theorem FieldType.mem_all (type : FieldType) : type ∈ all := by
  cases type <;> decide

/-- How the declaration of a public field begins. -/
def fieldStart (type : FieldType) (name : String) : String :=
  "public " ++ type.keyword ++ " " ++ name ++ " = "

/-- Whether a line declares a public field. -/
def declaresAs (type : FieldType) (name text : String) : Bool :=
  (fieldStart type name).toList.isPrefixOf text.toList

def declaresField (name text : String) : Bool :=
  FieldType.all.any fun type => declaresAs type name text

/-- How public fields and the method that receives damage begin. -/
def memberStarts : List String :=
  ["public i", "public f", "public b", "public s", "public V", "public o", "public void O"]

def isMember (text : String) : Bool :=
  memberStarts.any fun start => start.toList.isPrefixOf text.toList

theorem isMember_of_prefix {start : String} (hs : start ∈ memberStarts) {text : String}
    (h : start.toList <+: text.toList) : isMember text = true :=
  List.any_eq_true.mpr ⟨start, hs, List.isPrefixOf_iff_prefix.mpr h⟩

theorem isMember_of_diverges {text : String}
    (h : ∀ start ∈ memberStarts, diverges start.toList text.toList = true) :
    isMember text = false := by
  refine List.any_eq_false.mpr fun start hs own => ?_
  exact not_prefix_of_diverges (h start hs) (List.isPrefixOf_iff_prefix.mp own)

/-- How the lines begin that are no such members. -/
def otherStarts : List String :=
  ["//", "using ", "private ", "public class ", "public void I", "void ", "IEnumerator ", "if (", "_",
   "\x7b", "\x7d"]

theorem isMember_of_begins {text : String} (h : Begins otherStarts text) : isMember text = false := by
  have apart : (memberStarts.all fun start =>
      otherStarts.all fun other => diverges start.toList other.toList) = true := by decide
  exact isMember_of_diverges fun start hs => h.diverges (List.all_eq_true.mp apart start hs)

theorem isMember_of_declaresAs {type : FieldType} {name text : String}
    (h : declaresAs type name text = true) : isMember text = true := by
  have start := List.isPrefixOf_iff_prefix.mp h
  have keyword : Begins memberStarts ("public " ++ type.keyword) := by
    cases type <;> decide
  obtain ⟨first, hf, hp⟩ := begins_foldl keyword [" ", name, " = "]
  exact isMember_of_prefix hf (hp.trans start)

theorem isMember_of_declaresField {name text : String} (h : declaresField name text = true) :
    isMember text = true := by
  obtain ⟨type, -, own⟩ := List.any_eq_true.mp h
  exact isMember_of_declaresAs own

theorem fieldStart_toList (type : FieldType) (name : String) :
    (fieldStart type name).toList = "public ".toList ++
      (type.keyword.toList ++ ' ' :: (name.toList ++ ' ' :: ['=', ' '])) := by
  simp [fieldStart]

/-- A line that declares a field declares it with one type and one name. -/
theorem declaresAs_fieldStart {type other : FieldType} {name ident : String} (hn : IsName name)
    (hi : IsName ident) (rest : String) :
    declaresAs type name (fieldStart other ident ++ rest) = true ↔ type = other ∧ name = ident := by
  have blank {word : String} (hw : IsName word) : ' ' ∉ word.toList :=
    fun hm => unmarked_iff.mp hw.unmarked ' ' hm (by decide)
  have keyword (type : FieldType) : ' ' ∉ type.keyword.toList := by cases type <;> decide
  constructor
  · intro own
    by_contra different
    refine not_prefix_of_diverges ?_ (List.isPrefixOf_iff_prefix.mp own)
    rw [String.toList_append, fieldStart_toList, fieldStart_toList, List.append_assoc,
      diverges_common]
    by_cases same : type = other
    · have apart : name.toList ≠ ident.toList :=
        fun h => different ⟨same, String.toList_inj.mp h⟩
      have names := diverges_append (diverges_of_ne (blank hi) (blank hn) apart ['=', ' '] ['=', ' '])
        [] rest.toList
      rw [same, List.append_assoc, diverges_common]
      simpa [diverges] using names
    · have apart : type.keyword.toList ≠ other.keyword.toList := by
        revert same
        cases type <;> cases other <;> decide
      rw [List.append_assoc]
      exact diverges_of_ne (keyword other) (keyword type) apart _ _
  · rintro ⟨rfl, rfl⟩
    refine List.isPrefixOf_iff_prefix.mpr ?_
    rw [String.toList_append]
    exact List.prefix_append _ _

theorem declaresField_fieldStart {type : FieldType} {name ident : String} (hn : IsName name)
    (hi : IsName ident) (rest : String) :
    declaresField name (fieldStart type ident ++ rest) = true ↔ name = ident := by
  constructor
  · intro h
    obtain ⟨own, -, declared⟩ := List.any_eq_true.mp h
    exact ((declaresAs_fieldStart hn hi rest).mp declared).2
  · rintro rfl
    exact List.any_eq_true.mpr ⟨type, type.mem_all, (declaresAs_fieldStart hn hn rest).mpr ⟨rfl, rfl⟩⟩

theorem declaresAs_damageSignature (type : FieldType) (name : String) :
    declaresAs type name damageSignature = false := by
  have apart : diverges ("public " ++ type.keyword).toList damageSignature.toList = true := by
    cases type <;> decide
  refine Bool.eq_false_iff.mpr fun own => ?_
  refine not_prefix_of_diverges apart ?_
  exact (prefix_foldl _ [" ", name, " = "]).trans (List.isPrefixOf_iff_prefix.mp own)

variable {ctx : Context} {names : List String}

theorem Saying.isMember {text : String} (h : Saying ctx names text) : isMember text = false := by
  cases h with
  | phrase phrase =>
    have openings : (memberStarts.all fun start =>
        openings.all fun opening => diverges start.toList opening.toList) = true := by decide
    have parted : (memberStarts.all fun start =>
        isDotted start.toList || isParted start.toList) = true := by decide
    refine isMember_of_diverges fun start hs => phrase.diverges ⟨?_, ?_⟩
    · exact List.all_eq_true.mp openings start hs
    · exact List.all_eq_true.mp parted start hs
  | call c heq =>
    have apart : (memberStarts.all fun start =>
        callOpenings.all fun opening => diverges start.toList opening.toList) = true := by decide
    refine isMember_of_diverges fun start hs => ?_
    rw [heq]
    exact (c.begins_render _ _).diverges (List.all_eq_true.mp apart start hs)
  | heading heading =>
    have headings : (memberStarts.all fun start =>
        headings.all fun heading => diverges start.toList heading.toList) = true := by decide
    have tests : (memberStarts.all fun start => diverges start.toList "if (".toList) = true := by
      decide
    refine isMember_of_diverges fun start hs => heading.diverges ⟨?_, .inl ?_⟩
    · exact List.all_eq_true.mp headings start hs
    · exact List.all_eq_true.mp tests start hs
  | gate c heq =>
    have start : Begins otherStarts "if (" := by decide
    exact isMember_of_begins (heq ▸ begins_foldl start [_, _])
  | remark about heq =>
    have start : Begins otherStarts "// " := by decide
    exact isMember_of_begins (heq ▸ start.append _)
  | brace hb =>
    have braces : ∀ brace ∈ ["\x7b", "\x7d"], Begins otherStarts brace := by decide
    exact isMember_of_begins (braces text hb)

namespace Context.Assembly

theorem routineTexts_isMember (s : ctx.Assembly) : ∀ text ∈ s.routineTexts, isMember text = false := by
  intro text ht
  obtain ⟨r, -, own⟩ := List.mem_flatMap.mp ht
  have test : Begins otherStarts "if (!" := by decide
  have marks (rest : String) : isMember (r.flag ++ rest) = false :=
    isMember_of_begins ((r.begins_flag rest).mono (by decide))
  simp only [List.mem_cons, List.not_mem_nil, or_false] at own
  rcases own with rfl | rfl | rfl
  · exact isMember_of_begins (begins_foldl test [_, _, _, _])
  · exact marks _
  · exact marks _

theorem body_isMember (named : ctx.Named) (s : ctx.Assembly) :
    ∀ m ∈ s.code.methods, ∀ text ∈ m.body.texts, isMember text = false := by
  intro m hm text ht
  rcases s.methods_tell named m hm text ht with said | routine
  · exact said.isMember
  · exact s.routineTexts_isMember text routine

section

variable {q : String → Bool} (members : ∀ text, q text = true → isMember text = true)
include members

theorem filter_eq_nil {texts : List String} (h : ∀ text ∈ texts, isMember text = false) :
    texts.filter q = [] := by
  refine List.filter_eq_nil_iff.mpr fun text ht own => ?_
  cases (h text ht).symm.trans (members text own)

/-- Of the methods only the one that receives damage is a member. -/
theorem filter_methods (named : ctx.Named) (s : ctx.Assembly) :
    (s.code.methods.flatMap fun m => m.passage.texts).filter q =
      ((ctx.damageMethods (Facts.none.after ctx.bodies.effects)).map Method.signature).filter q := by
  have inside : ∀ m ∈ s.code.methods, m.passage.texts.filter q = [m.signature].filter q := by
    intro m hm
    have around : ∀ text ∈ "\x7b" :: (m.body.texts ++ ["\x7d"]), isMember text = false := by
      simp only [List.forall_mem_cons, List.forall_mem_append]
      exact ⟨by decide, s.body_isMember named m hm, by decide⟩
    have blank : [""].filter q = [] := filter_eq_nil members (by decide)
    have parts : m.passage.texts = [""] ++ ([m.signature] ++ "\x7b" :: (m.body.texts ++ ["\x7d"])) :=
      m.passage_texts
    rw [parts, List.filter_append, List.filter_append, filter_eq_nil members around, blank,
      List.append_nil, List.nil_append]
  have signatures : (s.code.methods.flatMap fun m => m.passage.texts).filter q =
      (s.code.methods.map Method.signature).filter q := by
    rw [List.filter_flatMap, List.flatMap_congr inside, ← List.filter_flatMap,
      List.map_eq_flatMap]
  have begins {methods : List Method} (h : ∀ m ∈ methods, Begins otherStarts m.signature) :
      (methods.map Method.signature).filter q = [] := by
    refine filter_eq_nil members fun text ht => ?_
    obtain ⟨m, hm, rfl⟩ := List.mem_map.mp ht
    exact isMember_of_begins (h m hm)
  have first : ∀ m ∈ awakeMethod :: initializeMethods ctx.config, Begins otherStarts m.signature := by
    refine List.forall_mem_cons.mpr ⟨by decide, fun m hm => ?_⟩
    have start : Begins otherStarts "public void Initialize(" := by decide
    cases eq_of_mem_initializeMethods hm
    exact begins_foldl start [_, _]
  have start : ∀ m ∈ (startMethod s.startBody).unlessEmpty, Begins otherStarts m.signature := by
    have known (waits : Bool) :
        Begins otherStarts (if waits then "IEnumerator Start()" else "void Start()") := by
      cases waits <;> decide
    exact Method.forall_unlessEmpty (p := fun m => Begins otherStarts m.signature) (known _)
  have hooks : ∀ m ∈ Hook.all.flatMap fun hook =>
      Method.unlessEmpty ⟨hook.signature, s.hookBody hook⟩, Begins otherStarts m.signature := by
    intro m hm
    obtain ⟨hook, -, hm⟩ := List.mem_flatMap.mp hm
    have known : Begins otherStarts hook.signature := by cases hook <;> decide
    exact Method.forall_unlessEmpty (p := fun m => Begins otherStarts m.signature) known m hm
  have routines : ∀ m ∈ s.routines.map RoutineCode.method, Begins otherStarts m.signature := by
    intro m hm
    obtain ⟨r, -, rfl⟩ := List.mem_map.mp hm
    have start : Begins otherStarts "IEnumerator " := by decide
    exact begins_foldl start [_, _]
  have methods : s.code.methods = awakeMethod :: initializeMethods ctx.config ++
      (startMethod s.startBody).unlessEmpty ++
      Hook.all.flatMap (fun hook => Method.unlessEmpty ⟨hook.signature, s.hookBody hook⟩) ++
      ctx.damageMethods (Facts.none.after ctx.bodies.effects) ++
      s.routines.map RoutineCode.method := rfl
  rw [signatures, methods]
  simp only [List.map_append, List.filter_append, begins first, begins start, begins hooks,
    begins routines, List.nil_append, List.append_nil]

theorem filter_of_begins {texts : List String}
    (h : ∀ text ∈ texts, text = "" ∨ Begins otherStarts text) : texts.filter q = [] := by
  refine filter_eq_nil members fun text ht => ?_
  rcases h text ht with rfl | start
  · decide
  · exact isMember_of_begins start

theorem filter_header (facts : Facts) : (ctx.header facts).texts.filter q = [] := by
  obtain ⟨remark, header⟩ := ctx.header_texts facts
  have imported : Begins otherStarts "using " := by decide
  have said : Begins otherStarts "// " := by decide
  refine filter_of_begins members fun text ht => ?_
  simp only [header, List.mem_append, List.mem_cons, List.mem_map, List.not_mem_nil, or_false] at ht
  rcases ht with (((rfl | rfl | rfl) | ⟨name, -, rfl⟩) | rfl)
  · exact .inr (by decide)
  · exact .inr (said.append _)
  · exact .inr (by decide)
  · exact .inr (begins_foldl imported [_, _])
  · exact .inl rfl

theorem filter_remarks (unhandled : List (String × Nat)) :
    (remarks unhandled).texts.filter q = [] := by
  have said : Begins otherStarts "// " := by decide
  refine filter_of_begins members fun text ht => ?_
  rcases mem_remarks ht with blank | ⟨about, rfl⟩
  · exact .inl blank
  · exact .inr (said.append _)

theorem filter_fields (facts : Facts) (declared : Passage) (flags : List String) :
    (ctx.fields facts declared flags).texts.filter q = declared.texts.filter q ++
      (if ctx.needsHealthField facts then [healthLine ctx.config] else []).filter q := by
  have hidden : Begins otherStarts "private " := by decide
  have own : ["private Transform _transform;", "private Animator _animator;"].filter q = [] :=
    filter_of_begins members (by decide)
  have context : (if ctx.config.usesContext then
      ["private " ++ ctx.config.contextType ++ " " ++ ServiceCall.contextField ++ ";"]
        else []).filter q = [] := by
    refine filter_of_begins members fun text ht => .inr ?_
    split at ht
    next =>
      cases List.mem_singleton.mp ht
      exact begins_foldl hidden [_, _, _, _]
    next => cases ht
  have blank : (if !ctx.entity.vars.isEmpty || ctx.needsHealthField facts then [""]
      else []).filter q = [] := by
    refine filter_of_begins members fun text ht => .inl ?_
    split at ht
    next => exact List.mem_singleton.mp ht
    next => cases ht
  have marks : (if flags.isEmpty then [] else "" :: flags.map fun flag =>
      "private bool " ++ flag ++ ";").filter q = [] := by
    refine filter_of_begins members fun text ht => ?_
    split at ht
    next => cases ht
    next =>
      rcases List.mem_cons.mp ht with rfl | ht
      · exact .inl rfl
      · obtain ⟨flag, -, rfl⟩ := List.mem_map.mp ht
        have bool : Begins otherStarts "private bool " := by decide
        exact .inr (begins_foldl bool [_, _])
  simp only [fields_texts, List.filter_append, own, context, blank, marks, List.nil_append,
    List.append_nil]

/-- The members of a class are the declared variables, the health field that is not declared, and the
method that receives damage. -/
theorem filter_class (named : ctx.Named) (s : ctx.Assembly) :
    s.code.passage.texts.filter q =
      s.declared.texts.filter q ++
        ((if ctx.needsHealthField (Facts.none.after ctx.bodies.effects) then
          [healthLine ctx.config] else []).filter q ++
        ((ctx.damageMethods (Facts.none.after ctx.bodies.effects)).map
          Method.signature).filter q) := by
  have header : s.code.header.texts.filter q = [] := filter_header members _
  have fields : s.code.fields.texts.filter q = _ := filter_fields members _ s.declared _
  have remarks : s.code.remarks.texts.filter q = [] := filter_remarks members _
  have signature : [s.code.signature, "\x7b"].filter q = [] := by
    have start : Begins otherStarts "public class " := by decide
    refine filter_of_begins members (List.forall_mem_cons.mpr ⟨.inr (begins_foldl start [_, _]), ?_⟩)
    exact List.forall_mem_singleton.mpr (.inr (by decide))
  have closing : ["\x7d"].filter q = [] := filter_eq_nil members (by decide)
  simp only [ClassCode.passage_texts, List.filter_append, header, remarks, fields, signature, closing,
    s.filter_methods members named, List.nil_append, List.append_nil, List.append_assoc]

end

end Context.Assembly

/-- Whether a variable becomes a field of a name. -/
def Variable.isNamed (name : String) (v : Variable) : Bool :=
  sanitize v.name == name

/-- What is written for variables, if some names are taken: a declaration for each name that is not,
and a remark for the others. -/
inductive Declared : List String → List Variable → List Piece → Prop
  | nil (taken : List String) : Declared taken [] []
  | skip {taken : List String} {v : Variable} {vars : List Variable} {pieces : List Piece}
      (about : String) : sanitize v.name ∈ taken → Declared taken vars pieces →
      Declared taken (v :: vars) (.comment about :: pieces)
  | field {taken : List String} {v : Variable} {vars : List Variable} {text : String}
      {pieces : List Piece} : sanitize v.name ∉ taken →
      (declaration v (sanitize v.name)).result = .ok text →
      Declared (sanitize v.name :: taken) vars pieces →
      Declared taken (v :: vars) (.line text :: pieces)

theorem declareFrom_declared (config : Config) {entity : String} {taken : List String}
    {vars : List Variable} {u : Unit} (h : (declareFrom entity taken vars).result = .ok u) :
    Declared taken vars (declareFrom entity taken vars).pieces := by
  induction vars generalizing taken with
  | nil => exact .nil taken
  | cons v vars ih =>
    unfold declareFrom at h ⊢
    dsimp only at h ⊢
    split at h
    next there =>
      obtain ⟨_, hn, h⟩ := bind_result_ok h
      obtain ⟨_, hc, h⟩ := bind_result_ok h
      rw [if_pos there, pieces_of_ok hn, pieces_of_ok hc]
      exact .skip _ (List.contains_iff_mem.mp there) (ih h)
    next free =>
      obtain ⟨text, ht, h⟩ := bind_result_ok h
      obtain ⟨_, hl, h⟩ := bind_result_ok h
      have silent : (declaration v (sanitize v.name)).pieces = [] :=
        IsSilent.pieces_eq_nil (declaration_isSilent _ _ : IsSilent config _)
      rw [if_neg free, pieces_of_ok ht, pieces_of_ok hl, silent]
      exact .field (fun hm => free (List.contains_iff_mem.mpr hm)) ht (ih h)

theorem Passage.texts_of_flat {p : Passage}
    (h : ∀ piece ∈ p.pieces, ∀ header, piece ≠ .openBlock header) :
    p.texts = p.pieces.flatMap Piece.texts := by
  induction p with
  | block header body => exact absurd rfl (h _ List.mem_cons_self header)
  | seq first second ih ih' =>
    obtain ⟨hf, hs⟩ := List.forall_mem_append.mp h
    rw [texts_seq, ih hf, ih' hs, pieces, List.flatMap_append]
  | _ => rfl

/-- A declaration begins with the type and the name of the field. -/
theorem declaration_start {v : Variable} {ident text : String}
    (h : (declaration v ident).result = .ok text) :
    ∃ rest, text = fieldStart v.fieldType ident ++ rest := by
  obtain ⟨literal, -, rfl⟩ := declaration_text h
  exact ⟨literal ++ ";", by rw [fieldStart, String.append_assoc]⟩

namespace Declared

variable {taken : List String} {vars : List Variable} {pieces : List Piece}

theorem flat (h : Declared taken vars pieces) :
    ∀ piece ∈ pieces, ∀ header, piece ≠ .openBlock header := by
  induction h with
  | nil => simp
  | skip _ _ _ ih => exact List.forall_mem_cons.mpr ⟨by simp, ih⟩
  | field _ _ _ ih => exact List.forall_mem_cons.mpr ⟨by simp, ih⟩

/-- The method that receives damage is no field. -/
theorem damage_not_mem (h : Declared taken vars pieces) :
    damageSignature ∉ pieces.flatMap Piece.texts := by
  induction h with
  | nil => simp
  | skip about _ _ ih =>
    rintro hm
    rcases List.mem_append.mp hm with own | further
    · have said := congrArg (fun text => text.toList.head?) (List.mem_singleton.mp own)
      simp [damageSignature, Passage.commentText] at said
    · exact ih further
  | @field _ v _ text _ _ ht _ ih =>
    rintro hm
    rcases List.mem_append.mp hm with own | further
    · obtain ⟨rest, start⟩ := declaration_start ht
      have declared : declaresAs v.fieldType (sanitize v.name) text = true := by
        rw [start]
        exact (declaresAs_fieldStart (isName_sanitize _) (isName_sanitize _) rest).mpr ⟨rfl, rfl⟩
      rw [← List.mem_singleton.mp own, declaresAs_damageSignature] at declared
      cases declared
    · exact ih further

theorem not_declares_comment (name about : String) :
    ¬ declaresField name (Passage.commentText about) = true := by
  have said : Begins otherStarts "// " := by decide
  intro own
  cases (isMember_of_begins (said.append _)).symm.trans (isMember_of_declaresField own)

/-- A name that is taken or that no variable has is not declared. -/
theorem filter_of_absent (h : Declared taken vars pieces) {name : String} (hn : IsName name)
    (absent : ∀ v ∈ vars, sanitize v.name = name → name ∈ taken) :
    (pieces.flatMap Piece.texts).filter (declaresField name) = [] := by
  induction h with
  | nil => rfl
  | skip about _ _ ih =>
    change (Passage.commentText about :: _).filter _ = []
    rw [List.filter_cons_of_neg (not_declares_comment name about)]
    exact ih fun v hv => absent v (List.mem_cons_of_mem _ hv)
  | @field _ v _ text _ free ht _ ih =>
    obtain ⟨rest, start⟩ := declaration_start ht
    have other : ¬ declaresField name text = true := by
      rw [start, declaresField_fieldStart hn (isName_sanitize _)]
      rintro rfl
      exact free (absent v List.mem_cons_self rfl)
    change (text :: _).filter _ = []
    rw [List.filter_cons_of_neg other]
    exact ih fun v hv same => List.mem_cons_of_mem _ (absent v (List.mem_cons_of_mem _ hv) same)

/-- The first variable of a name declares it. -/
theorem filter_of_find (h : Declared taken vars pieces) {name : String} (hn : IsName name)
    (free : name ∉ taken) {v : Variable}
    (first : vars.find? (Variable.isNamed name) = some v) :
    ∃ text, (declaration v name).result = .ok text ∧
      (pieces.flatMap Piece.texts).filter (declaresField name) = [text] := by
  induction h with
  | nil => cases first
  | @skip _ w _ _ about there _ ih =>
    have other : ¬ Variable.isNamed name w = true := by
      intro same
      cases beq_iff_eq.mp same
      exact free there
    rw [List.find?_cons_of_neg other] at first
    change ∃ text, _ ∧ (Passage.commentText about :: _).filter _ = [text]
    rw [List.filter_cons_of_neg (not_declares_comment name about)]
    exact ih free first
  | @field _ w _ text pieces _ ht declared ih =>
    obtain ⟨rest, start⟩ := declaration_start ht
    have own : declaresField name text = true ↔ name = sanitize w.name := by
      rw [start]
      exact declaresField_fieldStart hn (isName_sanitize _) rest
    change ∃ found, _ ∧ (text :: pieces.flatMap Piece.texts).filter _ = [found]
    by_cases same : sanitize w.name = name
    · have found : Variable.isNamed name w = true := beq_iff_eq.mpr same
      rw [List.find?_cons_of_pos found] at first
      cases first
      rw [List.filter_cons_of_pos (own.mpr same.symm),
        declared.filter_of_absent hn fun _ _ _ => same ▸ List.mem_cons_self]
      exact ⟨text, same ▸ ht, rfl⟩
    · have other : ¬ Variable.isNamed name w = true := fun h => same (beq_iff_eq.mp h)
      rw [List.find?_cons_of_neg other] at first
      rw [List.filter_cons_of_neg fun h => same (own.mp h).symm]
      refine ih (fun hm => ?_) first
      rcases List.mem_cons.mp hm with rfl | hm
      · exact same rfl
      · exact free hm

end Declared

end GraphScript
