import Mathlib.Data.List.Induction
import MatterStrip.App.Task

/-!
The colour after a sequence of attribute changes, and its dependence on the colour modes in between.

A colour temperature is turned into a hue and a saturation and stored where the two attributes are
kept. A later write of one of the two then meets the temperature's value of the other, not the
attribute's. `colour_of_attributes_iff` says exactly when that shows.
-/

namespace MatterStrip

open Lib

/-! ### The writes of a sequence of attribute changes -/

/-- An attribute change, as `MatterPostAttributeChangeCallback` receives it. -/
structure AttributeChange where
  clusterId : UInt32
  attributeId : UInt32
  value : Memory UInt8

inductive ColourWrite
  | hue (value : UInt8)
  | saturation (value : UInt8)
  | temperature (value : UInt16)
  deriving DecidableEq, Repr

/-- The colour attribute that a change is of, if it is of one. -/
def AttributeChange.colourWrite? (change : AttributeChange) : Option ColourWrite :=
  if change.clusterId = colorControlId then
    if change.attributeId = 0x00000000 then some (.hue (change.value 0))
    else if change.attributeId = 0x00000001 then some (.saturation (change.value 0))
    else if change.attributeId = 0x00000007 then some (.temperature (uint16At change.value))
    else none
  else none

namespace ColourWrite

def hue? : ColourWrite → Option UInt8
  | .hue value => some value
  | _ => none

def saturation? : ColourWrite → Option UInt8
  | .saturation value => some value
  | _ => none

def temperature? : ColourWrite → Option UInt16
  | .temperature value => some value
  | _ => none

/-- What a write does to `currentColorHS`. -/
def apply (linear : UInt16 → ℚ) (hs : HueSat) : ColourWrite → HueSat
  | .hue value => { hs with hue := value }
  | .saturation value => { hs with saturation := value }
  | .temperature value => temperatureHS linear value

end ColourWrite

open ColourWrite

/-- The last value that `kind` reads off the writes. -/
def lastOf {β : Type} (kind : ColourWrite → Option β) (writes : List ColourWrite) : Option β :=
  writes.reverse.findSome? kind

/-- The last colour temperature written after the last write of `kind`. -/
def temperatureSince {β : Type} (kind : ColourWrite → Option β) (writes : List ColourWrite) :
    Option UInt16 :=
  (writes.reverse.takeWhile fun write => (kind write).isNone).findSome? temperature?

/-! ### The colour register -/

section Register

variable {β : Type} (kind : ColourWrite → Option β) (writes : List ColourWrite)
  (write : ColourWrite)

lemma lastOf_snoc : lastOf kind (writes ++ [write]) = (kind write).or (lastOf kind writes) := by
  rw [lastOf, List.reverse_append]
  cases h : kind write <;> simp [h, lastOf]

lemma temperatureSince_snoc :
    temperatureSince kind (writes ++ [write]) =
      if (kind write).isNone then write.temperature?.or (temperatureSince kind writes) else none := by
  rw [temperatureSince, List.reverse_append]
  cases h : kind write with
  | some value => simp [h]
  | none => cases h' : write.temperature? <;> simp [h, h', temperatureSince]

end Register

variable {n : ℕ} (linear : UInt16 → ℚ) (hs : HueSat) (writes : List ColourWrite)

/-- An attribute `field` of the register, written by the writes of `kind` and by the colour
temperatures, is that of the last colour temperature after the last write of `kind`, or else the
last one written. -/
theorem foldl_apply (field : HueSat → UInt8) (kind : ColourWrite → Option UInt8)
    (hkind : ∀ hs write, kind write = none → write.temperature? = none →
      field (apply linear hs write) = field hs)
    (hwrite : ∀ hs write v, kind write = some v → field (apply linear hs write) = v)
    (htemp : ∀ hs write t, write.temperature? = some t →
      kind write = none ∧ field (apply linear hs write) = field (temperatureHS linear t)) :
    field (writes.foldl (apply linear) hs) =
      match temperatureSince kind writes with
      | some t => field (temperatureHS linear t)
      | none => (lastOf kind writes).getD (field hs) := by
  induction writes using List.reverseRecOn with
  | nil => rfl
  | append_singleton writes write ih =>
    rw [List.foldl_append, List.foldl_cons, List.foldl_nil, lastOf_snoc, temperatureSince_snoc]
    cases ht : write.temperature? with
    | some t =>
      obtain ⟨hnone, hfield⟩ := htemp (writes.foldl (apply linear) hs) write t ht
      simp [hnone, hfield]
    | none =>
      cases hk : kind write with
      | some v => simp [hwrite _ _ _ hk]
      | none => simp [hkind _ _ hk ht, ih]

theorem foldl_apply_hue :
    (writes.foldl (apply linear) hs).hue =
      match temperatureSince hue? writes with
      | some t => (temperatureHS linear t).hue
      | none => (lastOf hue? writes).getD hs.hue := by
  refine foldl_apply linear hs writes HueSat.hue hue? ?_ ?_ ?_
  · rintro hs (v | v | v) <;> simp [hue?, temperature?, apply]
  · rintro hs (v | v | v) <;> simp [hue?, apply]
  · rintro hs (v | v | v) <;> simp [hue?, temperature?, apply]

theorem foldl_apply_saturation :
    (writes.foldl (apply linear) hs).saturation =
      match temperatureSince saturation? writes with
      | some t => (temperatureHS linear t).saturation
      | none => (lastOf saturation? writes).getD hs.saturation := by
  refine foldl_apply linear hs writes HueSat.saturation saturation? ?_ ?_ ?_
  · rintro hs (v | v | v) <;> simp [saturation?, temperature?, apply]
  · rintro hs (v | v | v) <;> simp [saturation?, apply]
  · rintro hs (v | v | v) <;> simp [saturation?, temperature?, apply]

/-- After a write of the hue or the saturation, at most the other one is a temperature's. -/
lemma temperatureSince_eq_none (hlast : ∀ t, writes.getLast? ≠ some (.temperature t)) :
    temperatureSince hue? writes = none ∨ temperatureSince saturation? writes = none := by
  induction writes using List.reverseRecOn with
  | nil => exact Or.inl rfl
  | append_singleton writes write _ =>
    cases write with
    | hue value => exact Or.inl (by simp [temperatureSince_snoc, hue?])
    | saturation value => exact Or.inr (by simp [temperatureSince_snoc, saturation?])
    | temperature value => exact absurd (by simp) (hlast value)

/-! ### The changes as the callback receives them -/

def colourWrites (changes : List AttributeChange) : List ColourWrite :=
  changes.filterMap AttributeChange.colourWrite?

namespace AppTask

variable (w : AppTask n)

def deliver (changes : List AttributeChange) : AppTask n :=
  changes.foldl (fun w change =>
    w.matterPostAttributeChangeCallback linear change.clusterId change.attributeId change.value) w

/-- Switching the strip leaves its colours alone. -/
lemma stripAfter_colour (strip : Strip n) (cbs : List Callback) :
    (stripAfter strip cbs).ctl.currentColorHS = strip.ctl.currentColorHS ∧
      (stripAfter strip cbs).ctl.bufferRGB = strip.ctl.bufferRGB := by
  induction cbs generalizing strip with
  | nil => exact ⟨rfl, rfl⟩
  | cons cb cbs ih =>
    cases cb with
    | initiated aAction =>
      obtain ⟨hhs, hbuf⟩ := ih { strip with ctl := strip.ctl.turnOnOff (aAction = .onAction) }
      rw [stripAfter, hhs, hbuf]
      cases aAction <;> exact ⟨rfl, rfl⟩
    | completed aAction => exact ih strip

/-- The state of the colours: the register, and the colours of the devices. -/
def colours (w : AppTask n) : HueSat × Vector RGB n :=
  (w.strip.ctl.currentColorHS, w.strip.ctl.bufferRGB)

/-- What a colour write leaves of the register, shown on every device. -/
def coloursAfter (hs : HueSat) (write : ColourWrite) : HueSat × Vector RGB n :=
  (apply linear hs write, Vector.replicate n (convertHStoRGB (apply linear hs write)))

lemma initiateAction_colours (aActor : Int32) (aAction : Action) :
    (w.initiateAction aActor aAction).colours = w.colours := by
  obtain ⟨hhs, hbuf⟩ := stripAfter_colour w.strip
    (callbacks (w.light.initiateAction aActor aAction).2.2)
  rw [colours, colours, initiateAction, absorb_strip, hhs, hbuf]

/-- A change that is no colour write leaves the colours alone. -/
lemma attributeChange_other {change : AttributeChange} (h : change.colourWrite? = none) :
    (w.matterPostAttributeChangeCallback linear change.clusterId change.attributeId
      change.value).colours = w.colours := by
  obtain ⟨clusterId, attributeId, value⟩ := change
  unfold AttributeChange.colourWrite? at h
  unfold matterPostAttributeChangeCallback
  by_cases honoff : clusterId = onOffId ∧ attributeId = onOffAttributeId
  · rw [if_pos honoff]
    exact w.initiateAction_colours _ _
  · rw [if_neg honoff]
    by_cases hlevel : clusterId = levelControlId
    · rw [if_pos hlevel]
      split_ifs
      · exact Prod.ext_iff.2 ⟨StripController.setLevel_currentColorHS (value 0),
          StripController.setLevel_bufferRGB (value 0)⟩
      · rfl
    · rw [if_neg hlevel]
      by_cases hcolour : clusterId = colorControlId
      · rw [if_pos hcolour] at h ⊢
        split_ifs at h ⊢
        rfl
      · rw [if_neg hcolour]

/-- **A colour write writes the register and shows it on every device.** -/
lemma attributeChange_colour {change : AttributeChange} {write : ColourWrite}
    (h : change.colourWrite? = some write) :
    (w.matterPostAttributeChangeCallback linear change.clusterId change.attributeId
      change.value).colours = coloursAfter linear w.strip.ctl.currentColorHS write := by
  obtain ⟨clusterId, attributeId, value⟩ := change
  unfold AttributeChange.colourWrite? at h
  split_ifs at h with hcolour hhue hsat htemp
  · obtain rfl := Option.some.inj h
    subst hcolour hhue
    rfl
  · obtain rfl := Option.some.inj h
    subst hcolour hsat
    rfl
  · obtain rfl := Option.some.inj h
    subst hcolour htemp
    rfl

/-- The register and the colours after a sequence of changes. -/
theorem deliver_colours (changes : List AttributeChange) :
    (w.deliver linear changes).strip.ctl.currentColorHS =
        (colourWrites changes).foldl (apply linear) w.strip.ctl.currentColorHS ∧
      (colourWrites changes ≠ [] → (w.deliver linear changes).strip.ctl.bufferRGB =
        Vector.replicate n (convertHStoRGB
          ((colourWrites changes).foldl (apply linear) w.strip.ctl.currentColorHS))) := by
  induction changes using List.reverseRecOn with
  | nil => exact ⟨rfl, fun h => absurd rfl h⟩
  | append_singleton changes change ih =>
    obtain ⟨hhs, hbuf⟩ := ih
    rw [deliver, List.foldl_append, List.foldl_cons, List.foldl_nil, ← deliver, colourWrites,
      List.filterMap_append, ← colourWrites]
    cases hwrite : change.colourWrite? with
    | none =>
      have hsame := (w.deliver linear changes).attributeChange_other linear hwrite
      obtain ⟨hhs', hbuf'⟩ := Prod.ext_iff.1 hsame
      simp only [colours] at hhs' hbuf'
      rw [hhs', hbuf']
      simpa [hwrite] using And.intro hhs hbuf
    | some write =>
      have hafter := (w.deliver linear changes).attributeChange_colour linear hwrite
      obtain ⟨hhs', hbuf'⟩ := Prod.ext_iff.1 hafter
      simp only [colours, coloursAfter] at hhs' hbuf'
      rw [hhs', hbuf', hhs]
      simp [hwrite]

/-- **When the colour is the attributes'.** After a sequence of changes that writes the hue and the
saturation, and ends its colour writes with one of them, every device shows the colour of the last
hue and the last saturation exactly if a colour temperature written after the last hue, or after
the last saturation, does not matter for that colour. -/
theorem colour_of_attributes_iff (changes : List AttributeChange) (h s : UInt8)
    (hhue : lastOf hue? (colourWrites changes) = some h)
    (hsat : lastOf saturation? (colourWrites changes) = some s)
    (hlast : ∀ t, (colourWrites changes).getLast? ≠ some (.temperature t)) :
    (∀ c ∈ (w.deliver linear changes).strip.ctl.bufferRGB.toList, c = convertHStoRGB ⟨h, s⟩) ↔
      n = 0 ∨
      (∀ t, temperatureSince hue? (colourWrites changes) = some t →
        convertHStoRGB ⟨(temperatureHS linear t).hue, s⟩ = convertHStoRGB ⟨h, s⟩) ∧
      ∀ t, temperatureSince saturation? (colourWrites changes) = some t →
        convertHStoRGB ⟨h, (temperatureHS linear t).saturation⟩ = convertHStoRGB ⟨h, s⟩ := by
  have hne : colourWrites changes ≠ [] := by
    rintro hnil
    simp [hnil, lastOf] at hhue
  have hbuf := (w.deliver_colours linear changes).2 hne
  have hh := foldl_apply_hue linear w.strip.ctl.currentColorHS (colourWrites changes)
  have hs' := foldl_apply_saturation linear w.strip.ctl.currentColorHS (colourWrites changes)
  generalize (colourWrites changes).foldl (apply linear) w.strip.ctl.currentColorHS = reg
    at hbuf hh hs'
  obtain ⟨hue, saturation⟩ := reg
  simp only [hhue, hsat, Option.getD_some] at hh hs'
  have hshown : (∀ c ∈ (w.deliver linear changes).strip.ctl.bufferRGB.toList,
      c = convertHStoRGB ⟨h, s⟩) ↔
      n = 0 ∨ convertHStoRGB ⟨hue, saturation⟩ = convertHStoRGB ⟨h, s⟩ := by
    rw [hbuf, Vector.toList_replicate]
    simp [List.mem_replicate, or_iff_not_imp_left]
  rw [hshown]
  refine or_congr_right ?_
  -- one of the two attributes in the register is the last one written
  rcases temperatureSince_eq_none _ hlast with hnone | hnone
  · rw [hnone] at hh ⊢
    cases ht : temperatureSince saturation? (colourWrites changes) <;> simp_all
  · rw [hnone] at hs' ⊢
    cases ht : temperatureSince hue? (colourWrites changes) <;> simp_all

/-- The light is green, then warm white, and then gets its saturation again. -/
def greenWarmSaturated : List AttributeChange :=
  [⟨colorControlId, 0, fun _ => 85⟩, ⟨colorControlId, 1, fun _ => 255⟩,
    ⟨colorControlId, 7, fun a => if a = 0 then 250 else 0⟩, ⟨colorControlId, 1, fun _ => 255⟩]

/-- A strip of one device that is to be green shows the hue of the colour temperature. -/
theorem green_shown_orange :
    let shown := ((init 1 (fun _ => 0) true).deliver linearExact greenWarmSaturated).strip.ctl
    lastOf hue? (colourWrites greenWarmSaturated) = some 85 ∧
      lastOf saturation? (colourWrites greenWarmSaturated) = some 255 ∧
      (∀ t, (colourWrites greenWarmSaturated).getLast? ≠ some (.temperature t)) ∧
      shown.bufferRGB.toList = [⟨195, 60, 0⟩] ∧ convertHStoRGB ⟨85, 255⟩ = ⟨0, 255, 0⟩ := by
  have hlast : (colourWrites greenWarmSaturated).getLast? = some (.saturation 255) := by decide
  exact ⟨by decide, by decide, by simp [hlast], by decide +kernel, by decide⟩

/-- The light is warm white, and then gets its saturation and its hue again. -/
def warmThenGreen : List AttributeChange :=
  [⟨colorControlId, 7, fun a => if a = 0 then 250 else 0⟩, ⟨colorControlId, 1, fun _ => 255⟩,
    ⟨colorControlId, 0, fun _ => 85⟩]

theorem colour_of_attributes_green :
    convertHStoRGB ⟨85, 255⟩ = ⟨0, 255, 0⟩ ∧
      ∀ c ∈ ((init 2 (fun _ => 0) true).deliver linearExact
        warmThenGreen).strip.ctl.bufferRGB.toList, c = convertHStoRGB ⟨85, 255⟩ := by
  have hlast : (colourWrites warmThenGreen).getLast? = some (.hue 85) := by decide
  have hhue : temperatureSince hue? (colourWrites warmThenGreen) = none := by decide
  have hsat : temperatureSince saturation? (colourWrites warmThenGreen) = none := by decide
  refine ⟨by decide, (colour_of_attributes_iff linearExact (init 2 (fun _ => 0) true)
    warmThenGreen 85 255 (by decide) (by decide) (by simp [hlast])).2 (Or.inr ⟨?_, ?_⟩)⟩
  · simp [hhue]
  · simp [hsat]

end AppTask

end MatterStrip
