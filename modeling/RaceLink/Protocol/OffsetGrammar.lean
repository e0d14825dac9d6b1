/-
# Which bodies are `OPC_OFFSET` bodies

`parse_offset_body` is the inverse of `build_offset_body`, and raises on a malformed body.  The
builder bounds its arguments: a centre is at most 254, a cycle at least 1.  The parser looks at
the mode and at the length only, so beyond the builder's bodies it accepts two kinds
(`OffsetOutOfBounds`): a V shape around group 255 and a modulo with cycle 0.  Building from what
was parsed then returns another body.

`offsetGrammar_iff` is the result: parser and builder agree on a body exactly when it is neither.
-/
import RaceLink.Protocol.Packets

namespace RaceLink

open Python

/-! ## 1. The builder as it is called -/

/-- `OFFSET_MODE_NAMES`. -/
def offsetModeNames : List (Int × String) :=
  [(0x00, "none"), (0x01, "explicit"), (0x02, "linear"), (0x03, "vshape"), (0x04, "modulo")]

/-- `_coerce_mode`. -/
def coerceMode : PyVal → Except PyErr Int
  | .int mode =>
    if mode ∈ offsetModeNames.map (·.1) then pure mode
    else .error (.valueError [.text "unknown offset mode int: ", .repr (.int mode)])
  -- `True` is the key 1 of the table, `False` the key 0
  | .bool b => pure (if b then 1 else 0)
  | .str mode =>
    match (offsetModeNames.map Prod.swap).lookup (lower mode) with
    | some m => pure m
    | none => .error (.valueError [.text "unknown offset mode ", .repr (.str mode), .text
        "; expected one of ['explicit', 'linear', 'modulo', 'none', 'vshape']"])
  | _ => .error .typeError

/-- The keyword arguments of `build_offset_body`, with their defaults. -/
structure OffsetArgs where
  mode : PyVal := .int 0x00
  offsetMs : Int := 0
  baseMs : Int := 0
  stepMs : Int := 0
  center : Int := 0
  cycle : Int := 1

/-- What a mode reads of the arguments. -/
def OffsetArgs.config (args : OffsetArgs) : Int → Except PyErr OffsetConfig
  | 0x00 => pure .none
  | 0x01 => pure (.explicit args.offsetMs)
  | 0x02 => pure (.linear args.baseMs args.stepMs)
  | 0x03 => pure (.vshape args.baseMs args.stepMs args.center)
  | 0x04 => pure (.modulo args.baseMs args.stepMs args.cycle)
  | _ => .error .assertionError

/-- The configuration that the arguments ask for. -/
def OffsetArgs.resolve (args : OffsetArgs) : Except PyErr OffsetConfig := do
  let mode ← coerceMode args.mode
  args.config mode

/-- `build_offset_body`, from its arguments. -/
def buildOffsetBodyOf (groupId : Int) (args : OffsetArgs) : Except PyErr (List UInt8) := do
  let config ← args.resolve
  pure (buildOffsetBody groupId config)

/-- The arguments that ask for a configuration. -/
def OffsetConfig.args : OffsetConfig → OffsetArgs
  | .none => { mode := .str "none" }
  | .explicit ms => { mode := .str "explicit", offsetMs := ms }
  | .linear base step => { mode := .str "linear", baseMs := base, stepMs := step }
  | .vshape base step center =>
    { mode := .str "vshape", baseMs := base, stepMs := step, center := center }
  | .modulo base step cycle =>
    { mode := .str "modulo", baseMs := base, stepMs := step, cycle := cycle }

theorem OffsetConfig.resolve_args (config : OffsetConfig) : config.args.resolve = .ok config := by
  cases config <;> rfl

theorem buildOffsetBodyOf_eq_ok {groupId : Int} {args : OffsetArgs} {body : List UInt8} :
    buildOffsetBodyOf groupId args = .ok body ↔
      ∃ config, args.resolve = .ok config ∧ buildOffsetBody groupId config = body := by
  rw [buildOffsetBodyOf, bind_eq_ok]
  simp only [pure_eq_ok, Except.ok.injEq]

/-- Some arguments build a body exactly when some configuration does. -/
theorem exists_buildOffsetBodyOf {body : List UInt8} :
    (∃ groupId args, buildOffsetBodyOf groupId args = .ok body) ↔
      ∃ groupId config, buildOffsetBody groupId config = body := by
  constructor
  · rintro ⟨groupId, args, hbuild⟩
    obtain ⟨config, -, hbody⟩ := buildOffsetBodyOf_eq_ok.mp hbuild
    exact ⟨groupId, config, hbody⟩
  · rintro ⟨groupId, config, hbody⟩
    exact ⟨groupId, config.args, buildOffsetBodyOf_eq_ok.mpr ⟨config, config.resolve_args, hbody⟩⟩

/-! ## 2. Fields read and written back -/

theorem le16_of_mod {v : Int} {low high : UInt8} (h : v % 65536 = u16 low high) :
    le16 v = [low, high] := by
  have hlow : low.toNat < 256 := low.toNat_lt
  have hhigh : high.toNat < 256 := high.toNat_lt
  have hbytes : byteOf v = low ∧ byteOf (v / 256) = high := by
    rw [u16] at h
    constructor
    · rw [← byteOf_toNat low, byteOf, byteOf]
      congr 2
      omega
    · rw [← byteOf_toNat high, byteOf, byteOf]
      congr 2
      omega
  rw [le16, hbytes.1, hbytes.2]

theorem u16_range (low high : UInt8) : 0 ≤ u16 low high ∧ u16 low high ≤ 65535 := by
  have hlow : low.toNat < 256 := low.toNat_lt
  have hhigh : high.toNat < 256 := high.toNat_lt
  rw [u16]
  omega

theorem i16_range (low high : UInt8) : -32768 ≤ i16 low high ∧ i16 low high ≤ 32767 := by
  have hrange := u16_range low high
  rw [i16]
  split <;> omega

theorem le16_u16 (low high : UInt8) : le16 (u16 low high) = [low, high] := by
  have hrange := u16_range low high
  exact le16_of_mod (by omega)

theorem le16_i16 (low high : UInt8) : le16 (i16 low high) = [low, high] := by
  have hrange := u16_range low high
  refine le16_of_mod ?_
  rw [i16]
  split <;> omega

/-- A field that was read is within the bounds of the builder. -/
theorem clampI16_i16 (low high : UInt8) : clampI16 (i16 low high) = i16 low high :=
  clampTo_eq_self (i16_range low high)

/-! ## 3. What the parser accepts -/

/-- A field of the configuration is outside the bounds of the builder, of those that a byte can
be: `OFFSET_CENTER_MAX` is 254, `OFFSET_CYCLE_MIN` is 1. -/
def OffsetOutOfBounds (body : List UInt8) : Prop :=
  body.length = 7 ∧ (body[1]? = some 0x03 ∧ body[6]? = some 255 ∨
    body[1]? = some 0x04 ∧ body[6]? = some 0)

instance (body : List UInt8) : Decidable (OffsetOutOfBounds body) :=
  inferInstanceAs (Decidable (_ ∧ (_ ∧ _ ∨ _ ∧ _)))

/-- **The forms of an accepted body**, one for each mode. -/
theorem parseOffsetBody_cases {body : List UInt8} {groupId : Int} {config : OffsetConfig}
    (h : parseOffsetBody body = .ok (groupId, config)) :
    ∃ g : UInt8, groupId = g.toNat ∧
      (body = [g, 0x00] ∧ config = .none ∨
       (∃ l u, body = [g, 0x01, l, u] ∧ config = .explicit (u16 l u)) ∨
       (∃ bl bh sl sh, body = [g, 0x02, bl, bh, sl, sh] ∧
          config = .linear (i16 bl bh) (i16 sl sh)) ∨
       (∃ bl bh sl sh c, body = [g, 0x03, bl, bh, sl, sh, c] ∧
          config = .vshape (i16 bl bh) (i16 sl sh) c.toNat) ∨
       (∃ bl bh sl sh c, body = [g, 0x04, bl, bh, sl, sh, c] ∧
          config = .modulo (i16 bl bh) (i16 sl sh) c.toNat)) := by
  match body, h with
  | [], h => cases h
  | [_], h => cases h
  | g :: m :: rest, h =>
    simp only [parseOffsetBody] at h
    refine ⟨g, ?_⟩
    split at h
    next hm =>
      subst hm
      split at h
      · cases h
        exact ⟨rfl, .inl ⟨rfl, rfl⟩⟩
      · cases h
    next =>
    split at h
    next hm =>
      subst hm
      split at h
      · cases h
        exact ⟨rfl, .inr (.inl ⟨_, _, rfl, rfl⟩)⟩
      · cases h
    next =>
    split at h
    next hm =>
      subst hm
      split at h
      · cases h
        exact ⟨rfl, .inr (.inr (.inl ⟨_, _, _, _, rfl, rfl⟩))⟩
      · cases h
    next =>
    split at h
    next hm =>
      subst hm
      split at h
      · cases h
        exact ⟨rfl, .inr (.inr (.inr (.inl ⟨_, _, _, _, _, rfl, rfl⟩)))⟩
      · cases h
    next =>
    split at h
    next hm =>
      subst hm
      split at h
      · cases h
        exact ⟨rfl, .inr (.inr (.inr (.inr ⟨_, _, _, _, _, rfl, rfl⟩)))⟩
      · cases h
    next => cases h

/-- An accepted body with its fields in bounds is built from what was read of it. -/
theorem buildOffsetBody_parseOffsetBody {body : List UInt8} {groupId : Int}
    {config : OffsetConfig} (h : parseOffsetBody body = .ok (groupId, config))
    (hbounds : ¬ OffsetOutOfBounds body) : buildOffsetBody groupId config = body := by
  obtain ⟨g, rfl, hforms⟩ := parseOffsetBody_cases h
  rcases hforms with ⟨rfl, rfl⟩ | ⟨l, u, rfl, rfl⟩ | ⟨bl, bh, sl, sh, rfl, rfl⟩ |
    ⟨bl, bh, sl, sh, c, rfl, rfl⟩ | ⟨bl, bh, sl, sh, c, rfl, rfl⟩
  · rw [buildOffsetBody, byteOf_toNat]
  · have hms : clampTo 0 0xFFFF (u16 l u) = u16 l u := clampTo_eq_self (u16_range l u)
    rw [buildOffsetBody, byteOf_toNat, hms, le16_u16]
    rfl
  · rw [buildOffsetBody, byteOf_toNat, clampI16_i16, clampI16_i16, le16_i16, le16_i16]
    rfl
  · have hlt : c.toNat < 256 := c.toNat_lt
    have hne : c.toNat ≠ 255 := by
      intro hc
      refine hbounds ⟨rfl, .inl ⟨rfl, ?_⟩⟩
      rw [List.getElem?_cons_succ]
      exact congrArg some (UInt8.toNat_inj.mp hc)
    have hcenter : clampTo 0 254 (c.toNat : Int) = c.toNat := clampTo_eq_self (by omega)
    rw [buildOffsetBody, byteOf_toNat, clampI16_i16, clampI16_i16, le16_i16, le16_i16, hcenter,
      byteOf_toNat]
    rfl
  · have hlt : c.toNat < 256 := c.toNat_lt
    have hne : c.toNat ≠ 0 := by
      intro hc
      refine hbounds ⟨rfl, .inr ⟨rfl, ?_⟩⟩
      rw [List.getElem?_cons_succ]
      exact congrArg some (UInt8.toNat_inj.mp hc)
    have hcycle : clampTo 1 255 (c.toNat : Int) = c.toNat := clampTo_eq_self (by omega)
    rw [buildOffsetBody, byteOf_toNat, clampI16_i16, clampI16_i16, le16_i16, le16_i16, hcycle,
      byteOf_toNat]
    rfl

/-- The parser accepts a body whose field is out of bounds. -/
theorem parseOffsetBody_outOfBounds {body : List UInt8} (h : OffsetOutOfBounds body) :
    ∃ r, parseOffsetBody body = .ok r := by
  obtain ⟨hlength, hmode⟩ := h
  match body, hlength with
  | [g, m, bl, bh, sl, sh, c], _ =>
    rcases hmode with ⟨hm, -⟩ | ⟨hm, -⟩
    · cases hm
      exact ⟨_, rfl⟩
    · cases hm
      exact ⟨_, rfl⟩

/-- The builder makes no such body. -/
theorem not_outOfBounds_buildOffsetBody (groupId : Int) (config : OffsetConfig) :
    ¬ OffsetOutOfBounds (buildOffsetBody groupId config) := by
  rintro ⟨hlength, hmode⟩
  cases config with
  | none => cases hlength
  | explicit ms => cases hlength
  | linear base step => cases hlength
  | vshape base step center =>
    have hrange := clampTo_range (by decide : (0 : Int) ≤ 254) center
    rcases hmode with ⟨-, hc⟩ | ⟨hm, -⟩
    · have hbyte : byteOf (clampTo 0 254 center) = 255 := Option.some.inj hc
      have hvalue := toNat_byteOf_eq (v := clampTo 0 254 center) ⟨hrange.1, by omega⟩
      rw [hbyte] at hvalue
      have htop : ((255 : UInt8).toNat : Int) = 255 := rfl
      omega
    · cases hm
  | modulo base step cycle =>
    have hrange := clampTo_range (by decide : (1 : Int) ≤ 255) cycle
    rcases hmode with ⟨hm, -⟩ | ⟨-, hc⟩
    · cases hm
    · have hbyte : byteOf (clampTo 1 255 cycle) = 0 := Option.some.inj hc
      have hvalue := toNat_byteOf_eq (v := clampTo 1 255 cycle) ⟨by omega, hrange.2⟩
      rw [hbyte] at hvalue
      have hbottom : ((0 : UInt8).toNat : Int) = 0 := rfl
      omega

/-! ## 4. The grammar -/

/-- Parser and builder agree on a body: it is accepted exactly when some arguments build it, and
it is then built again from what was read. -/
def OffsetBodyExact (body : List UInt8) : Prop :=
  ((∃ r, parseOffsetBody body = .ok r) ↔
    ∃ groupId args, buildOffsetBodyOf groupId args = .ok body) ∧
  ∀ groupId config, parseOffsetBody body = .ok (groupId, config) →
    buildOffsetBodyOf groupId config.args = .ok body

theorem offsetBodyExact_iff (body : List UInt8) :
    OffsetBodyExact body ↔ ¬ OffsetOutOfBounds body := by
  constructor
  · rintro ⟨haccept, -⟩ hout
    obtain ⟨groupId, config, rfl⟩ :=
      exists_buildOffsetBodyOf.mp (haccept.mp (parseOffsetBody_outOfBounds hout))
    exact not_outOfBounds_buildOffsetBody groupId config hout
  · intro hbounds
    refine ⟨⟨?_, ?_⟩, ?_⟩
    · rintro ⟨⟨groupId, config⟩, hparse⟩
      exact exists_buildOffsetBodyOf.mpr
        ⟨groupId, config, buildOffsetBody_parseOffsetBody hparse hbounds⟩
    · intro hbuilt
      obtain ⟨groupId, config, rfl⟩ := exists_buildOffsetBodyOf.mp hbuilt
      exact ⟨_, parseOffsetBody_buildOffsetBody groupId config⟩
    · intro groupId config hparse
      exact buildOffsetBodyOf_eq_ok.mpr ⟨config, config.resolve_args,
        buildOffsetBody_parseOffsetBody hparse hbounds⟩

/-- A built body reads back as its arguments, each within its range. -/
theorem parseOffsetBody_of_build {groupId : Int} {args : OffsetArgs} {body : List UInt8}
    (h : buildOffsetBodyOf groupId args = .ok body) :
    ∃ config, args.resolve = .ok config ∧
      parseOffsetBody body = .ok (groupId % 256, config.clamped) := by
  obtain ⟨config, hresolve, rfl⟩ := buildOffsetBodyOf_eq_ok.mp h
  exact ⟨config, hresolve, parseOffsetBody_buildOffsetBody groupId config⟩

/-- **The grammar of `OPC_OFFSET`**: the parser accepts what the builder makes and nothing else,
and the builder gives an accepted body back, except for a V shape around 255 and a modulo with
cycle 0.  What is built reads back as its arguments. -/
theorem offsetGrammar_iff (body : List UInt8) :
    (OffsetBodyExact body ↔ ¬ OffsetOutOfBounds body) ∧
    ∀ groupId args, buildOffsetBodyOf groupId args = .ok body →
      ∃ config, args.resolve = .ok config ∧
        parseOffsetBody body = .ok (groupId % 256, config.clamped) :=
  ⟨offsetBodyExact_iff body, fun _ _ => parseOffsetBody_of_build⟩

/-- A modulo with cycle 0 is accepted, and built again with cycle 1. -/
theorem offsetGrammar_cycle_zero :
    parseOffsetBody [7, 0x04, 0, 0, 100, 0, 0] = .ok (7, .modulo 0 100 0) ∧
    buildOffsetBodyOf 7 (OffsetConfig.modulo 0 100 0).args = .ok [7, 0x04, 0, 0, 100, 0, 1] ∧
    ¬ OffsetBodyExact [7, 0x04, 0, 0, 100, 0, 0] := by
  have hparse : parseOffsetBody [7, 0x04, 0, 0, 100, 0, 0] = .ok (7, .modulo 0 100 0) := by
    simp [parseOffsetBody, i16, u16]
  have hbuild : buildOffsetBodyOf 7 (OffsetConfig.modulo 0 100 0).args
      = .ok [7, 0x04, 0, 0, 100, 0, 1] :=
    buildOffsetBodyOf_eq_ok.mpr ⟨_, OffsetConfig.resolve_args _, by decide⟩
  refine ⟨hparse, hbuild, ?_⟩
  rintro ⟨-, hrebuild⟩
  have hagain := hrebuild _ _ hparse
  rw [hbuild] at hagain
  exact absurd (Except.ok.inj hagain) (by decide)

/-- A linear body with a step below the range of the wire reads back with the least step. -/
theorem offsetGrammar_linear :
    parseOffsetBody [0x2c, 0x02, 0xf4, 0x01, 0x00, 0x80]
      = .ok (44, .linear 500 (-32768)) := by
  have hbuild : buildOffsetBodyOf 300 (OffsetConfig.linear 500 (-70000)).args
      = .ok [0x2c, 0x02, 0xf4, 0x01, 0x00, 0x80] :=
    buildOffsetBodyOf_eq_ok.mpr ⟨_, OffsetConfig.resolve_args _, by decide⟩
  obtain ⟨config, hresolve, hparse⟩ := (offsetGrammar_iff _).2 _ _ hbuild
  rw [OffsetConfig.resolve_args] at hresolve
  cases hresolve
  exact hparse

end RaceLink
