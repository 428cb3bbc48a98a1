import GraphScript.Proofs.Placement
import GraphScript.Proofs.StringLiteral
import GraphScript.Proofs.Total

namespace GraphScript

open Lowered CSharp

/-- The key of the event with an index. -/
def keyText (id : String) (index : Nat) : String :=
  id ++ ":" ++ toString index

/-- The entity and the event that a key belongs to: what stands before the last colon, and the number
behind it. -/
def keyOwner (key : String) : String × Nat :=
  let number := key.toList.reverse.takeWhile (· != ':')
  let id := (key.toList.reverse.dropWhile (· != ':')).tail
  (String.ofList id.reverse, Nat.ofDigitChars 10 number.reverse 0)

theorem keyOwner_keyText (id : String) (index : Nat) : keyOwner (keyText id index) = (id, index) := by
  have backwards : (keyText id index).toList.reverse =
      (Nat.toDigits 10 index).reverse ++ ':' :: id.toList.reverse := by
    simp [keyText]
  have number : ∀ c ∈ (Nat.toDigits 10 index).reverse, (c != ':') = true := by
    intro c hc
    have digit := Decimal.allDigits_toDigits index c (List.mem_reverse.mp hc)
    rw [bne_iff_ne]
    rintro rfl
    cases digit
  unfold keyOwner
  dsimp only
  rw [backwards, List.takeWhile_append_of_pos number, List.dropWhile_append_of_pos number,
    List.takeWhile_cons_of_neg (by simp), List.dropWhile_cons_of_neg (by simp), List.append_nil,
    List.reverse_reverse, List.tail_cons, List.reverse_reverse, String.ofList_toList,
    Nat.ofDigitChars_ten_toDigits]

/-- How a gate begins, up to its key. -/
def gateStart : ServiceMode → String
  | .context => "_context == null || _context.Cooldowns.TryUse("
  | .static => "CooldownManager.TryUse("

/-- The key that a gate asks for. -/
def gateKey? (mode : ServiceMode) (test : String) : Option String :=
  (dropStart? (gateStart mode).toList test.toList).bind fun arguments =>
    (readLiteral? arguments).map Prod.fst

theorem gate_eq (mode : ServiceMode) (key seconds : String) :
    (ServiceCall.cooldown key seconds).render mode =
      gateStart mode ++ key ++ ", " ++ seconds ++ ")" := by
  cases mode with
  | context =>
    have start : "_context" ++ " == null || " ++ "_context" ++ ".Cooldowns.TryUse(" =
        gateStart .context := by decide
    rw [← start]
    rfl
  | static => rfl

theorem gateKey?_render (mode : ServiceMode) (key seconds : String) :
    gateKey? mode ((ServiceCall.cooldown (quote key) seconds).render mode) = some key := by
  have parts : ((ServiceCall.cooldown (quote key) seconds).render mode).toList =
      (gateStart mode).toList ++ ((quote key).toList ++ (", " ++ seconds ++ ")").toList) := by
    simp only [gate_eq, String.toList_append, List.append_assoc]
  rw [gateKey?, parts, dropStart?_append, Option.bind_some, readLiteral?_quote]
  rfl

namespace Context

theorem cooldownKey_eq_iff (a b : Context) (i j : Nat) :
    a.cooldownKey i = b.cooldownKey j ↔ a.entity.id = b.entity.id ∧ i = j := by
  constructor
  · intro same
    have texts : keyText a.entity.id i = keyText b.entity.id j := quote_injective same
    have owners := congrArg keyOwner texts
    rw [keyOwner_keyText, keyOwner_keyText] at owners
    exact Prod.mk.inj owners
  · rintro ⟨id, rfl⟩
    rw [cooldownKey, cooldownKey, id]

/-- The value that an event gives for its cooldown. -/
def cooldownValue (event : Event) : Value :=
  (event.triggerParams.lookup "cooldown").getD .null

/-- An event with a positive cooldown has one gate, with the key of the event. -/
theorem cooldownGuard_of_positive (ctx : Context) (index : Nat) {event : Event} {seconds : Binary64}
    (given : (cooldownValue event).number? = .ok (some seconds)) (positive : seconds.isPositive = true) :
    (ctx.cooldownGuard index event).result =
      .ok [(ServiceCall.cooldown (ctx.cooldownKey index) (floatLiteral seconds)).render
        ctx.config.serviceMode] := by
  have tests : ctx.cooldownTests index event =
      [(ServiceCall.cooldown (ctx.cooldownKey index) (floatLiteral seconds)).render
        ctx.config.serviceMode] := by
    unfold cooldownValue at given
    rw [cooldownTests, given]
    exact if_pos positive
  have ends : (ctx.cooldownGuard index event).Succeeds := by
    refine (succeeds_bind _ _).mpr ⟨(succeeds_ofExcept _).mpr ⟨_, given⟩, fun found _ => ?_⟩
    cases found <;> simp
  obtain ⟨made, hm⟩ := ends.ends
  rw [hm, cooldownGuard_result hm, tests]

/-- Two events have the same cooldown key exactly if they are the same event of entities with the same
id, whatever the ids are. An event with a positive cooldown has one gate; it asks for this key, and the
key tells which entity and which event it belongs to. -/
theorem cooldown_keys_apart (a b : Context) (i j : Nat) :
    (a.cooldownKey i = b.cooldownKey j ↔ a.entity.id = b.entity.id ∧ i = j) ∧
    ∀ event seconds, (cooldownValue event).number? = .ok (some seconds) →
      seconds.isPositive = true →
      ∃ test key, (a.cooldownGuard i event).result = .ok [test] ∧
        gateKey? a.config.serviceMode test = some key ∧ quote key = a.cooldownKey i ∧
        keyOwner key = (a.entity.id, i) := by
  refine ⟨cooldownKey_eq_iff a b i j, fun event seconds given positive => ?_⟩
  exact ⟨_, _, cooldownGuard_of_positive a i given positive, gateKey?_render _ _ _, rfl,
    keyOwner_keyText _ _⟩

theorem cooldown_keys_apart_colons :
    ∃ config, Config.Draft.default.check = .ok config ∧
      ∃ event ∈ busyEntity.events, ∃ test key,
        ((Context.of { busyEntity with id := "guard:1" } config).cooldownGuard 1 event).result =
          .ok [test] ∧
        gateKey? config.serviceMode test = some key ∧ keyOwner key = ("guard:1", 1) ∧
        (Context.of { busyEntity with id := "guard:1" } config).cooldownKey 1 ≠
          (Context.of busyEntity config).cooldownKey 11 := by
  obtain ⟨config, valid⟩ : ∃ config, Config.Draft.default.check = .ok config := ⟨_, rfl⟩
  let event : Event := ⟨none, "OnUpdate", [("cooldown", .int 2)], none, [⟨"IsAlive", none, []⟩],
    some "RunModule", [("moduleId", .text "rest")]⟩
  obtain ⟨seconds, given, positive⟩ : ∃ seconds, (cooldownValue event).number? = .ok (some seconds) ∧
      seconds.isPositive = true := ⟨_, rfl, by decide +kernel⟩
  obtain ⟨apart, gated⟩ := cooldown_keys_apart (Context.of { busyEntity with id := "guard:1" } config)
    (Context.of busyEntity config) 1 11
  obtain ⟨test, key, made, read, -, owner⟩ := gated event seconds given positive
  refine ⟨config, valid, event, by simp [busyEntity, event], test, key, made, read, owner,
    fun same => ?_⟩
  exact absurd (apart.mp same).2 (by decide)

end Context

end GraphScript
