/-
# The offset formula on both sides of the wire

`evaluate_offset_ms` reads a dictionary: the offset block that a scene has stored, or what
`parse_offset_body` makes of a received body.  Validator, builder and evaluator each bound the
parameters in their own way; on a block the validator has accepted they agree
(`evaluateOffsetSpec_wire`).
-/
import RaceLink.Offset.Coverage

namespace RaceLink

open Python

/-! ## 1. The evaluator -/

/-- `evaluate_offset_ms` as it is called: with a dictionary. -/
def evaluateOffsetSpec (spec : Dict) (groupId : Int) : Except PyErr Int :=
  match (Dict.get spec "mode").or (.str "none") with
  | .str s => do
    let mode := lower s
    let gid := groupId % 256
    if mode = "none" then pure 0
    else if mode = "explicit" then do
      let ms ← int (Dict.getD spec "offset_ms" (.int 0))
      pure (clampMs ms)
    else do
      let base ← int (Dict.getD spec "base_ms" (.int 0))
      let step ← int (Dict.getD spec "step_ms" (.int 0))
      if mode = "linear" then pure (clampMs (base + gid * step))
      else if mode = "vshape" then do
        let center ← int (Dict.getD spec "center" (.int 0))
        pure (clampMs (base + (gid - center % 256).natAbs * step))
      else if mode = "modulo" then do
        let rawCycle ← int (Dict.getD spec "cycle" (.int 1))
        let cycle := if rawCycle > 0 then rawCycle else 1
        pure (clampMs (base + gid % cycle * step))
      else .error (.valueError [.text "unknown offset formula mode: ", .repr (.str mode)])
  | _ => .error .attributeError

/-- The stored block as a dictionary. -/
def OffsetBlock.spec (o : OffsetBlock) : Dict :=
  match o.toPy with
  | .dict d => d
  | _ => []

/-- The dictionary `parse_offset_body` returns. -/
def OffsetConfig.spec (groupId : Int) (config : OffsetConfig) : Dict :=
  (.str "group_id", .int groupId) ::
    match config with
    | .none => [(.str "mode", .str "none")]
    | .explicit ms => [(.str "mode", .str "explicit"), (.str "offset_ms", .int ms)]
    | .linear base step =>
      [(.str "mode", .str "linear"), (.str "base_ms", .int base), (.str "step_ms", .int step)]
    | .vshape base step center =>
      [(.str "mode", .str "vshape"), (.str "base_ms", .int base), (.str "step_ms", .int step),
        (.str "center", .int center)]
    | .modulo base step cycle =>
      [(.str "mode", .str "modulo"), (.str "base_ms", .int base), (.str "step_ms", .int step),
        (.str "cycle", .int cycle)]

/-- `evaluate_offset_ms(parse_offset_body(body), group_id)`. -/
def evaluateOffsetBody (body : List UInt8) (groupId : Int) : Except PyErr Int := do
  let parsed ← parseOffsetBody body
  evaluateOffsetSpec (parsed.2.spec parsed.1) groupId

/-! ## 2. What it computes -/

/-- The modes' names are in lower case. -/
theorem lower_modeName : lower "none" = "none" ∧ lower "explicit" = "explicit" ∧
    lower "linear" = "linear" ∧ lower "vshape" = "vshape" ∧ lower "modulo" = "modulo" := by
  decide

/-- The offset a decoded configuration means for a group. -/
def OffsetConfig.offsetMs (groupId : Int) : OffsetConfig → Int
  | .none => 0
  | .explicit ms => clampMs ms
  | .linear base step => evaluateOffsetMs (.linear base step) groupId
  | .vshape base step center => evaluateOffsetMs (.vshape base step center) groupId
  | .modulo base step cycle => evaluateOffsetMs (.modulo base step cycle) groupId

/-- A dictionary with the fields of a configuration is evaluated to its offset, whatever comes
before the fields. -/
theorem evaluateOffsetSpec_spec (config : OffsetConfig) (groupId gid : Int) :
    evaluateOffsetSpec (config.spec groupId) gid = .ok (config.offsetMs gid) := by
  obtain ⟨hnone, hexplicit, hlinear, hvshape, hmodulo⟩ := lower_modeName
  cases config <;> simp [evaluateOffsetSpec, OffsetConfig.spec, OffsetConfig.offsetMs,
    evaluateOffsetMs, Dict.get, Dict.getD, PyVal.or, PyVal.truthy, hnone, hexplicit, hlinear,
    hvshape, hmodulo]

theorem evaluateOffsetSpec_block (o : OffsetBlock) (gid : Int) :
    evaluateOffsetSpec o.spec gid = .ok (evaluateOffsetMs o gid) := by
  obtain ⟨hnone, hexplicit, hlinear, hvshape, hmodulo⟩ := lower_modeName
  cases o <;> simp [evaluateOffsetSpec, OffsetBlock.spec, OffsetBlock.toPy, strDict,
    evaluateOffsetMs, Dict.get, Dict.getD, PyVal.or, PyVal.truthy, hnone, hexplicit, hlinear,
    hvshape, hmodulo]

/-- A body is evaluated to the offset its clamped configuration means. -/
theorem evaluateOffsetBody_buildOffsetBody (groupId : Int) (config : OffsetConfig) (gid : Int) :
    evaluateOffsetBody (buildOffsetBody groupId config) gid
      = .ok (config.clamped.offsetMs gid) := by
  rw [evaluateOffsetBody, parseOffsetBody_buildOffsetBody, ok_bind, evaluateOffsetSpec_spec]

/-- On a canonical formula the bounds of the builder change nothing. -/
theorem offsetMs_offsetPayload {o : OffsetBlock} (hform : o.IsFormula = true)
    {groupIds : Option (List Int)} (hcanon : o.Canonical groupIds) (gid : Int) :
    (offsetPayload o).clamped.offsetMs gid = evaluateOffsetMs o gid := by
  cases o with
  | none => rfl
  | explicit values => cases hform
  | linear base step =>
    obtain ⟨hbase, hstep⟩ := clampI16_eq_self hcanon
    rw [offsetPayload, OffsetConfig.clamped, hbase, hstep, OffsetConfig.offsetMs]
  | vshape base step center =>
    obtain ⟨hbase, hstep⟩ := clampI16_eq_self hcanon.1
    have hcenter : clampTo 0 254 center = center := clampTo_eq_self hcanon.2
    rw [offsetPayload, OffsetConfig.clamped, hbase, hstep, hcenter, OffsetConfig.offsetMs]
  | modulo base step cycle =>
    obtain ⟨hbase, hstep⟩ := clampI16_eq_self hcanon.1
    have hrange : 1 ≤ cycle ∧ cycle ≤ 255 := hcanon.2
    have hcycle : clampTo 1 255 (max 1 cycle) = cycle := by
      rw [max_eq_right hrange.1, clampTo_eq_self hrange]
    rw [offsetPayload, OffsetConfig.clamped, hbase, hstep, hcycle, OffsetConfig.offsetMs]

/-! ## 3. Both sides agree -/

/-- **Host and device agree.**  For a formula block that the validator has accepted and any group,
the offset computed from the broadcast body is the offset computed from the block; it fits the
wire, and an EXPLICIT body made from it gives it back. -/
theorem evaluateOffsetSpec_wire {raw : PyVal} {groupsIsAll : Bool} {groupIds : Option (List Int)}
    {o : OffsetBlock} (h : canonicalOffsetBlock raw groupsIsAll groupIds = .ok o)
    (hform : o.IsFormula = true) (g : Int) :
    ∃ ms, evaluateOffsetBody (buildOffsetBody 255 (offsetPayload o)) g = .ok ms ∧
      evaluateOffsetSpec o.spec g = .ok ms ∧ (0 ≤ ms ∧ ms ≤ 65535) ∧
      (∀ groupId : Int, parseOffsetBody (buildOffsetBody groupId (.explicit ms))
        = .ok (groupId % 256, .explicit ms)) ∧
      evaluateOffsetBody (buildOffsetBody g (.explicit ms)) g = .ok ms := by
  have hcanon := canonicalOffsetBlock_sound h
  have hrange := evaluateOffsetMs_range o g
  have hclamp : clampTo 0 0xFFFF (evaluateOffsetMs o g) = evaluateOffsetMs o g :=
    clampTo_eq_self hrange
  refine ⟨evaluateOffsetMs o g, ?_, evaluateOffsetSpec_block o g, hrange, fun groupId => ?_, ?_⟩
  · rw [evaluateOffsetBody_buildOffsetBody, offsetMs_offsetPayload hform hcanon]
  · rw [parseOffsetBody_buildOffsetBody, OffsetConfig.clamped, hclamp]
  · rw [evaluateOffsetBody_buildOffsetBody, OffsetConfig.clamped, OffsetConfig.offsetMs, hclamp,
      clampMs, hclamp]

/-- A falling V around group 3. -/
def fallingV : PyVal :=
  strDict [("mode", .str "vshape"), ("base_ms", .int 500), ("step_ms", .int (-70)),
    ("center", .int 3)]

theorem evaluateOffsetSpec_wire_fallingV :
    canonicalOffsetBlock fallingV true none = .ok (.vshape 500 (-70) 3) ∧
    ∃ ms, evaluateOffsetBody
        (buildOffsetBody 255 (offsetPayload (.vshape 500 (-70) 3))) 9 = .ok ms ∧
      evaluateOffsetSpec (OffsetBlock.vshape 500 (-70) 3).spec 9 = .ok ms ∧ (0 ≤ ms ∧ ms ≤ 65535) ∧
      (∀ groupId : Int, parseOffsetBody (buildOffsetBody groupId (.explicit ms))
        = .ok (groupId % 256, .explicit ms)) ∧
      evaluateOffsetBody (buildOffsetBody 9 (.explicit ms)) 9 = .ok ms := by
  have hraw : canonicalOffsetBlock fallingV true none = .ok (.vshape 500 (-70) 3) := rfl
  exact ⟨hraw, evaluateOffsetSpec_wire hraw rfl 9⟩

example : evaluateOffsetSpec (OffsetBlock.vshape 500 (-70) 3).spec 9 = .ok 80 := rfl

end RaceLink
