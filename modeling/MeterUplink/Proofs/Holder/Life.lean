import MeterUplink.Proofs.Holder
import MeterUplink.Proofs.Uplink.Decryption

namespace MeterUplink.Holder

/-! Holders over any life. The settings that a holder shows can drift away from what was accepted,
but its table and its key stay those of the settings that were accepted last, so they keep what
acceptance made sure of. -/

/-- What may be done with a holder. -/
inductive Step where
  | assign (assignment : Assignment)
  | prepare (log : String)
  | revalidate

/-- A holder as it is now, and as it was when settings were last accepted. -/
structure Life where
  made : Holder
  present : Holder

def Life.begin (holder : Holder) : Life := ⟨holder, holder⟩

/-- Preparing an uplink leaves the holder alone, and so does a refusal of its settings. -/
def Life.step (life : Life) : Step → Life
  | .assign assignment => { life with present := life.present.assign assignment }
  | .prepare _ => life
  | .revalidate =>
    match life.present.revalidate.outcome with
    | .ok next => .begin next
    | .error _ => life

/-- Table and key are those of the settings that were accepted last. -/
structure Life.Sound (life : Life) : Prop where
  accepted : (ofSettings life.made.settings).outcome = .ok life.made
  table : life.present.table = life.made.table
  cipherKey : life.present.cipherKey = life.made.cipherKey

theorem settings_of_ofSettings {settings : Settings} {holder : Holder}
    (accepted : (ofSettings settings).outcome = .ok holder) : holder.settings = settings := by
  obtain ⟨_, table, cipherKey, _, _, rfl⟩ := ofSettings_eq_ok_iff.mp accepted
  rfl

theorem revalidate_of_ofSettings {settings : Settings} {holder : Holder}
    (accepted : (ofSettings settings).outcome = .ok holder) :
    holder.revalidate.outcome = .ok holder := by
  rw [revalidate, settings_of_ofSettings accepted]
  exact accepted

namespace Life

variable {life : Life}

theorem sound_begin {settings : Settings} {holder : Holder}
    (accepted : (ofSettings settings).outcome = .ok holder) : (begin holder).Sound :=
  ⟨revalidate_of_ofSettings accepted, rfl, rfl⟩

theorem step_of_refused {error : SettingsError}
    (refused : life.present.revalidate.outcome = .error error) : life.step .revalidate = life := by
  simp only [step, refused]

theorem step_of_accepted {next : Holder} (accepted : life.present.revalidate.outcome = .ok next) :
    life.step .revalidate = begin next := by
  simp only [step, accepted]

theorem Sound.step (sound : life.Sound) (step : Step) : (life.step step).Sound := by
  cases step with
  | assign assignment =>
      obtain ⟨table, cipherKey⟩ := life.present.assign_keeps assignment
      exact ⟨sound.accepted, table.trans sound.table, cipherKey.trans sound.cipherKey⟩
  | prepare log => exact sound
  | revalidate =>
      cases outcome : life.present.revalidate.outcome with
      | error error =>
          rw [step_of_refused outcome]
          exact sound
      | ok next =>
          rw [step_of_accepted outcome]
          exact sound_begin outcome

theorem Sound.run (sound : life.Sound) (steps : List Step) :
    (steps.foldl Life.step life).Sound := by
  induction steps generalizing life with
  | nil => exact sound
  | cons step rest ih => exact ih (sound.step step)

theorem Sound.proper (sound : life.Sound) : life.present.table.Proper := by
  obtain ⟨_, table, cipherKey, made, _, same⟩ := ofSettings_eq_ok_iff.mp sound.accepted
  rw [sound.table, same]
  exact RegisterTable.proper_of_ofDefinitions? made

theorem Sound.isSome_cipherKey (sound : life.Sound) :
    life.present.cipherKey.isSome = life.made.settings.payload.encryption.enabled := by
  rw [sound.cipherKey]
  exact isSome_cipherKey_of_ofSettings sound.accepted

end Life

/-- Over any life of a holder its table is proper, table and key are those that the last accepted
settings made, a refusal changes nothing, and accepting twice is accepting once. So an uplink is
sent in ciphertext for as long as there is a key, also when the present settings have encryption
turned off. -/
theorem life_of_accepted {settings : Settings} {start : Holder}
    (accepted : (ofSettings settings).outcome = .ok start) (steps : List Step) :
    let life := steps.foldl Life.step (.begin start)
    life.present.table.Proper ∧
      ((ofSettings life.made.settings).outcome = .ok life.made ∧
        life.present.table = life.made.table ∧ life.present.cipherKey = life.made.cipherKey ∧
        life.present.cipherKey.isSome = life.made.settings.payload.encryption.enabled) ∧
      (∀ error, life.present.revalidate.outcome = .error error →
        life.step .revalidate = life) ∧
      (∀ next, life.present.revalidate.outcome = .ok next →
        life.step .revalidate = .begin next ∧ next.revalidate.outcome = .ok next) ∧
      ∀ log uplink key, life.present.cipherKey = some key →
        (Uplink.prepare life.present log).outcome = .ok uplink →
        ∃ ciphertext, uplink.ciphertext = some ciphertext ∧
          uplink.payload.encrypt key = .ok ciphertext ∧
          uplink.chunks.concat = ciphertext.text := by
  intro life
  have sound : life.Sound := (Life.sound_begin accepted).run steps
  refine ⟨sound.proper, ⟨sound.accepted, sound.table, sound.cipherKey, sound.isSome_cipherKey⟩,
    fun error => Life.step_of_refused, fun next again => ?_, ?_⟩
  · exact ⟨Life.step_of_accepted again, revalidate_of_ofSettings again⟩
  · intro log uplink key keyed prepared
    obtain ⟨ciphertext, turned, encrypted⟩ := Uplink.exists_ciphertext keyed prepared
    refine ⟨ciphertext, turned, encrypted, ?_⟩
    rw [Uplink.concat_chunks prepared, Uplink.sentPayload, turned]
    rfl

/-- Encryption is turned off and the registers are taken away. The holder refuses that, and still
sends ciphertext. -/
theorem life_of_keyedSettings :
    let steps := [Step.assign (.payload {}), .assign (.registers []), .revalidate,
      .assign (.registers RegisterTable.standardDefinitions)]
    let life := steps.foldl Life.step
      (.begin ⟨Uplink.keyedSettings, "", .standard, some Uplink.sampleKey⟩)
    life.present.settings.payload.encryption.enabled = false ∧
      ∃ uplink, (Uplink.prepare life.present (Uplink.standardLog "1D:20")).outcome = .ok uplink ∧
        uplink.ciphertext.isSome = true := by
  intro steps life
  have present : life.present = Uplink.keyedHolder := by decide +kernel
  have keyed : life.present.cipherKey = some Uplink.sampleKey := by rw [present]; rfl
  have ⟨_, _, _, _, sends⟩ := life_of_accepted Uplink.ofSettings_keyedSettings steps
  obtain ⟨uplink, prepared, _⟩ := Uplink.exists_prepare_keyedHolder
  rw [← present] at prepared
  obtain ⟨ciphertext, turned, _⟩ := sends _ uplink _ keyed prepared
  exact ⟨by rw [present]; rfl, uplink, prepared, by rw [turned]; rfl⟩

end MeterUplink.Holder
