import ProgramDeploy.Program
import ProgramDeploy.Proofs.ByteConversion

namespace ProgramDeploy

open ProgramDeploy.Hash

def Hash.Blake2b.Separates (message message' : Bytes) : Prop :=
  message ≠ message' → digest 32 message ≠ digest 32 message'

theorem Hash.Blake2b.Separates.eq {message message' : Bytes} (h : Separates message message')
    (hdigest : digest 32 message = digest 32 message') : message = message' :=
  Decidable.not_imp_not.mp h hdigest

theorem Value.bytesPart_of_isByteString {v : Value} {bs : Bytes} (h : v.IsByteString bs) :
    v.bytesPart = .ok bs := by
  cases h <;> rfl

theorem CodeId.compute_of_isByteString {code : Value} {bs : Bytes} (h : code.IsByteString bs) :
    compute code = .ok (ofCode bs) := by
  cases h <;> rfl

namespace ProgramId

def preimage (codeId salt : Bytes) : Bytes :=
  Text.Utf8.encode "program_from_user" ++ codeId ++ salt

def ofProgram (code salt : Value) : Except Fault Bytes := do
  compute (.bytes (← CodeId.compute code)) salt

variable {code salt code' salt' : Value} {bs cs bs' cs' : Bytes}

theorem compute_of_isByteString {codeId : Value} {ids : Bytes} (hid : codeId.IsByteString ids)
    (hsalt : salt.IsByteString cs) : compute codeId salt = .ok (ofParts ids cs) := by
  rw [compute, Value.bytesPart_of_isByteString hid, Value.bytesPart_of_isByteString hsalt]
  rfl

theorem ofProgram_of_isByteString (hcode : code.IsByteString bs) (hsalt : salt.IsByteString cs) :
    ofProgram code salt = .ok (ofParts (CodeId.ofCode bs) cs) := by
  rw [ofProgram, CodeId.compute_of_isByteString hcode]
  exact compute_of_isByteString (.bytes _) hsalt

theorem preimage_eq_iff {ids ids' : Bytes} (hlength : ids.length = ids'.length) :
    preimage ids cs = preimage ids' cs' ↔ ids = ids' ∧ cs = cs' := by
  constructor
  · intro h
    simp only [preimage, List.append_assoc, List.append_cancel_left_eq] at h
    exact List.append_inj h hlength
  · rintro ⟨rfl, rfl⟩
    rfl

example : preimage [0] [1] = preimage [] [0, 1] := rfl

theorem ofParts_ofCode_inj (hcodes : Blake2b.Separates bs bs')
    (hpreimages : Blake2b.Separates (preimage (CodeId.ofCode bs) cs) (preimage (CodeId.ofCode bs') cs'))
    (h : ofParts (CodeId.ofCode bs) cs = ofParts (CodeId.ofCode bs') cs') : bs = bs' ∧ cs = cs' := by
  -- The id of the code has a fixed length, so what is hashed tells where the salt starts.
  have hlength : (CodeId.ofCode bs).length = (CodeId.ofCode bs').length := by
    rw [CodeId.length_ofCode, CodeId.length_ofCode]
  obtain ⟨hcode, hsalt⟩ := (preimage_eq_iff hlength).mp (hpreimages.eq h)
  exact ⟨hcodes.eq hcode, hsalt⟩

/-- Ids have 32 bytes, and programs with one id have one code and one salt, as far as the hash function tells
these codes apart and what is hashed for these ids. -/
theorem identifies_code_and_salt :
    (∀ code bs, code.IsByteString bs → ∃ id, CodeId.compute code = .ok id ∧ id.length = 32) ∧
    (∀ codeId salt ids cs, codeId.IsByteString ids → salt.IsByteString cs →
      ∃ id, compute codeId salt = .ok id ∧ id.length = 32) ∧
    ∀ code code' salt salt' bs bs' cs cs', code.IsByteString bs → code'.IsByteString bs' →
      salt.IsByteString cs → salt'.IsByteString cs' →
      Blake2b.Separates bs bs' →
      Blake2b.Separates (preimage (CodeId.ofCode bs) cs) (preimage (CodeId.ofCode bs') cs') →
      (ofProgram code salt = ofProgram code' salt' ↔ bs = bs' ∧ cs = cs') := by
  refine ⟨fun code bs hcode => ?_, fun codeId salt ids cs hid hsalt => ?_, ?_⟩
  · exact ⟨_, CodeId.compute_of_isByteString hcode, CodeId.length_ofCode bs⟩
  · exact ⟨_, compute_of_isByteString hid hsalt, length_ofParts ids cs⟩
  · intro code code' salt salt' bs bs' cs cs' hcode hcode' hsalt hsalt' hcodes hpreimages
    rw [ofProgram_of_isByteString hcode hsalt, ofProgram_of_isByteString hcode' hsalt', Except.ok.injEq]
    constructor
    · exact ofParts_ofCode_inj hcodes hpreimages
    · rintro ⟨rfl, rfl⟩
      rfl

theorem identifies_code_and_salt_shifted :
    (∃ id, ofProgram (.bytes [0]) (.bytes [1, 2]) = .ok id ∧ id.length = 32) ∧
      ofProgram (.bytes [0]) (.bytes [1, 2]) ≠ ofProgram (.buffer [0, 1]) (.bytes [2]) := by
  obtain ⟨hcode, hparts, hids⟩ := identifies_code_and_salt
  obtain ⟨codeId, hcodeId, -⟩ := hcode _ _ (.bytes [0])
  obtain ⟨id, hid, hlength⟩ := hparts _ _ _ _ (.bytes codeId) (.bytes [1, 2])
  have hcodes : Blake2b.Separates [0] [0, 1] := fun _ => by decide +kernel
  have hpreimages : Blake2b.Separates (preimage (CodeId.ofCode [0]) [1, 2]) (preimage (CodeId.ofCode [0, 1]) [2]) :=
    fun _ => by decide +kernel
  refine ⟨⟨id, ?_, hlength⟩, fun h => ?_⟩
  · rw [ofProgram, hcodeId]
    exact hid
  · have hsame := (hids _ _ _ _ _ _ _ _ (.bytes [0]) (.buffer [0, 1]) (.bytes [1, 2]) (.bytes [2])
      hcodes hpreimages).mp h
    cases hsame.1

end ProgramId

end ProgramDeploy
