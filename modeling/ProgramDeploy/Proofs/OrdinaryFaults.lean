import ProgramDeploy.Deployer

namespace ProgramDeploy

namespace Fault

def isOrdinary : Fault → Bool
  | raised .. => false
  | beyondWord k => k ≠ .interrupt
  | _ => true

theorem isInterrupt_of_isOrdinary {f : Fault} (h : f.isOrdinary = true) :
    f.isInterrupt = false := by
  cases f with
  | misuse type m => cases m <;> rfl
  | beyondWord k => exact decide_eq_false (of_decide_eq_true h)
  | json f => cases f <;> rfl
  | address f => cases f <;> rfl
  | badPath problem literal => cases problem <;> rfl
  | raised kind arguments files => cases h
  | _ => rfl

theorem fromWorker_of_isOrdinary {f : Fault} (h : f.isOrdinary = true) : f.fromWorker = f := by
  cases f with
  | raised kind arguments files => cases h
  | _ => rfl

@[simp] theorem isInterrupt_fromWorker (f : Fault) :
    f.fromWorker.isInterrupt = f.isInterrupt := by
  unfold fromWorker
  split <;> rfl

end Fault

def Ordinarily {α : Type} (x : Except Fault α) : Prop :=
  ∀ f, x = .error f → f.isOrdinary = true

namespace Ordinarily

variable {α β ε : Type}

@[simp] theorem ok (x : α) : Ordinarily (.ok x : Except Fault α) := by
  intro f h
  cases h

@[simp] theorem pure (x : α) : Ordinarily (Pure.pure x : Except Fault α) := ok x

@[simp] theorem error_iff {f : Fault} :
    Ordinarily (.error f : Except Fault α) ↔ f.isOrdinary = true :=
  ⟨fun h => h f rfl, fun h g hg => by cases hg; exact h⟩

@[simp] theorem throw_iff {f : Fault} :
    Ordinarily (throw f : Except Fault α) ↔ f.isOrdinary = true := error_iff

@[simp] theorem bind_iff {x : Except Fault α} {next : α → Except Fault β} :
    Ordinarily (x >>= next) ↔ Ordinarily x ∧ ∀ y, x = .ok y → Ordinarily (next y) := by
  cases x with
  | ok y => exact ⟨fun h => ⟨ok y, fun _ hz => by cases hz; exact h⟩, fun h => h.2 y rfl⟩
  | error f =>
    exact ⟨fun h => ⟨error_iff.mpr (h f rfl), fun _ hy => (nomatch hy)⟩,
      fun h => error_iff.mpr (error_iff.mp h.1)⟩

@[simp] theorem map_iff {x : Except Fault α} {next : α → β} :
    Ordinarily (next <$> x) ↔ Ordinarily x := by
  cases x <;> simp [Functor.map, Except.map]

@[simp] theorem mapError {x : Except ε α} {h : ε → Fault} (hh : ∀ e, (h e).isOrdinary = true) :
    Ordinarily (x.mapError h) := by
  cases x with
  | ok x => exact ok x
  | error e => exact error_iff.mpr (hh e)

theorem mapM {next : α → Except Fault β} (hnext : ∀ x, Ordinarily (next x)) (xs : List α) :
    Ordinarily (xs.mapM next) := by
  induction xs with
  | nil => exact pure []
  | cons x xs ih =>
    rw [List.mapM_cons]
    exact bind_iff.mpr ⟨hnext x, fun _ _ => bind_iff.mpr ⟨ih, fun _ _ => pure _⟩⟩

end Ordinarily

namespace Value

@[simp] theorem ordinarily_shown (v : Value) : Ordinarily v.shown :=
  .mapError fun _ => rfl

@[simp] theorem ordinarily_field (v : Value) (name : String) : Ordinarily (v.field name) := by
  cases v with
  | dict t =>
    simp only [field]
    split <;> simp [Fault.isOrdinary]
  | _ => simp [field, misused, Fault.isOrdinary]

@[simp] theorem ordinarily_fieldOrNull (v : Value) (name : String) :
    Ordinarily (v.fieldOrNull name) := by
  cases v <;> simp [fieldOrNull, misused, Fault.isOrdinary]

@[simp] theorem ordinarily_length (v : Value) : Ordinarily v.length := by
  cases v <;> simp [length, misused, Fault.isOrdinary]

@[simp] theorem ordinarily_items (v : Value) : Ordinarily v.items := by
  cases v <;> simp [items, misused, Fault.isOrdinary]

@[simp] theorem ordinarily_toByte (v : Value) : Ordinarily v.toByte := by
  unfold toByte
  split
  · split <;> simp [Fault.isOrdinary]
  · simp [misused, Fault.isOrdinary]

@[simp] theorem ordinarily_zeroBytes (n : Int) : Ordinarily (zeroBytes n) := by
  unfold zeroBytes
  repeat' split
  all_goals simp [Fault.isOrdinary]

@[simp] theorem ordinarily_toBytes (v : Value) : Ordinarily v.toBytes := by
  cases v with
  | list items => exact .mapM ordinarily_toByte _
  | dict t => exact .mapM ordinarily_toByte _
  | _ => simp [toBytes, misused, Fault.isOrdinary]

end Value

theorem Payload.isOrdinary_refused (t : Text.Torn) : (refused t).isOrdinary = true := by
  unfold refused
  split <;> rfl

theorem Payload.ordinarily_encode (payload : Value) : Ordinarily (encode payload) := by
  cases payload with
  | text s =>
    simp only [encode]
    split
    · simp
    · exact .mapError fun _ => rfl
  | torn t => exact Ordinarily.error_iff.mpr (isOrdinary_refused t)
  | _ => simp [encode, Fault.isOrdinary]

theorem Program.ordinarily_build (code initPayload gasLimit value salt : Value) (e : Entropy) :
    Ordinarily (build code initPayload gasLimit value salt e) := by
  unfold build
  repeat' split
  all_goals simp [Fault.isOrdinary, Payload.ordinarily_encode]

namespace UploadCall

theorem ordinarily_ofValue (program keepAlive : Value) : Ordinarily (ofValue program keepAlive) := by
  simp [ofValue, hexField]

theorem ordinarily_summary (program : Value) (c : UploadCall) : Ordinarily (c.summary program) := by
  simp [summary]

end UploadCall

namespace Account

theorem ordinarily_formatNumber (v : Value) : Ordinarily (formatNumber v) := by
  unfold formatNumber
  repeat' split
  all_goals simp [Value.misused, Fault.isOrdinary]

theorem ordinarily_ofPublicKey (key : Bytes) (format : Value) : Ordinarily (ofPublicKey key format) := by
  simp [ofPublicKey, ordinarily_formatNumber]

theorem ordinarily_seedBytes (seed name : Value) : Ordinarily (seedBytes seed name) := by
  unfold seedBytes
  repeat' split
  all_goals simp [Fault.isOrdinary]

theorem ordinarily_ofSeed (seed name format : Value) : Ordinarily (ofSeed seed name format) := by
  refine Ordinarily.bind_iff.mpr ⟨ordinarily_seedBytes seed name, fun bs _ => ?_⟩
  split <;> simp [Fault.isOrdinary, ordinarily_ofPublicKey]

theorem ordinarily_phraseWords (mnemonic : Value) : Ordinarily (phraseWords mnemonic) := by
  unfold phraseWords
  repeat' split
  all_goals simp [Value.misused, Fault.isOrdinary]

theorem ordinarily_ofMnemonic (mnemonic name format : Value) :
    Ordinarily (ofMnemonic mnemonic name format) := by
  refine Ordinarily.bind_iff.mpr ⟨ordinarily_phraseWords mnemonic, fun words _ => ?_⟩
  split
  · simp [Fault.isOrdinary]
  · exact Ordinarily.bind_iff.mpr ⟨.mapError fun _ => rfl, fun _ _ => ordinarily_ofPublicKey _ _⟩

end Account

end ProgramDeploy
