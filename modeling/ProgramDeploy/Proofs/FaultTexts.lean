import ProgramDeploy.Proofs.KeylessFaults

namespace ProgramDeploy

def Text.HasBlank (s : String) : Prop :=
  ' ' ∈ s.toList

instance (s : String) : Decidable (Text.HasBlank s) := inferInstanceAs (Decidable (' ' ∈ s.toList))

theorem Text.HasBlank.left {s : String} (h : HasBlank s) (t : String) : HasBlank (s ++ t) := by
  rw [HasBlank, String.toList_append]
  exact List.mem_append_left _ h

theorem Text.HasBlank.right (s : String) {t : String} (h : HasBlank t) : HasBlank (s ++ t) := by
  rw [HasBlank, String.toList_append]
  exact List.mem_append_right _ h

theorem Misuse.hasBlank_message (type : String) (m : Misuse) : Text.HasBlank (m.message type) := by
  cases m with
  | noAttribute => exact .left (.left (.right _ (by decide +kernel)) _) _
  | notNumeric | unhashable | textIndex => exact .left (.left (by decide +kernel) _) _
  | _ => first | exact .right _ (by decide +kernel) | exact .left (by decide +kernel) _

theorem Text.Unwritten.hasBlank_message (u : Unwritten) (codec reason : String) :
    HasBlank (u.message codec reason) :=
  .left (.right _ (by decide +kernel)) _

namespace Fault

theorem hasBlank_numeralMessage (f : Numeral.Fault) : Text.HasBlank (numeralMessage f) := by
  cases f with
  | malformed => decide +kernel
  | _ => exact .right _ (by decide +kernel)

theorem hasBlank_utf8Message (f : Text.Utf8.Fault) : Text.HasBlank (utf8Message f) := by
  unfold utf8Message
  dsimp only
  split
  · exact .left (.right _ (.right _ (by decide +kernel))) _
  · exact .left (.right _ (by decide +kernel)) _

theorem hasBlank_jsonMessage (f : Json.Fault) : Text.HasBlank (jsonMessage f) := by
  cases f with
  | numeral f => exact hasBlank_numeralMessage f
  | malformed => exact .right _ (.left (.left (.right _ (by decide +kernel)) _) _)
  | tooDeep => exact .right _ (by decide +kernel)

theorem hasBlank_addressMessage (f : Address.Fault) : Text.HasBlank f.message := by
  cases f with
  | notAscii u => exact u.hasBlank_message _ _
  | badCharacter => exact .left (by decide +kernel) _
  | reservedFormat => exact .right _ (by decide +kernel)
  | _ => decide +kernel

theorem IsKeyless.hasBlank_text {f : Fault} (h : f.IsKeyless) {text : String} (htext : f.text = .ok text) :
    text = "" ∨ Text.HasBlank text := by
  have htext := mapError_eq_ok_iff.mp htext
  cases f with
  | missingKey => exact absurd rfl h.2
  | raised => cases h.1
  | countUnallocatable =>
    cases htext
    exact .inl rfl
  | misuse type m => exact .inr (Except.ok.inj htext ▸ m.hasBlank_message type)
  | numeral f => exact .inr (Except.ok.inj htext ▸ hasBlank_numeralMessage f)
  | utf8 f => exact .inr (Except.ok.inj htext ▸ hasBlank_utf8Message f)
  | json f => exact .inr (Except.ok.inj htext ▸ hasBlank_jsonMessage f)
  | address f => exact .inr (Except.ok.inj htext ▸ hasBlank_addressMessage f)
  | unwritable u => exact .inr (Except.ok.inj htext ▸ u.hasBlank_message _ _)
  | _ =>
    right
    cases htext
    -- What is fixed in such a text is all of it, its end, its beginning or what joins two parts.
    first
    | decide +kernel
    | exact .right _ (by decide +kernel)
    | exact .left (by decide +kernel) _
    | exact .left (.right _ (by decide +kernel)) _
    | exact .left (.left (by decide +kernel) _) _
    | exact .left (.left (.right _ (by decide +kernel)) _) _

end Fault

namespace Text

theorem blank_not_mem_hexDigits (width n : Nat) : ' ' ∉ hexDigits width n := by
  have hdigit : ∀ k < 16, Hex.digit k ≠ ' ' := by decide
  intro h
  obtain ⟨i, -, hi⟩ := List.mem_map.mp h
  exact hdigit _ (Nat.mod_lt _ (by decide)) hi

theorem blank_not_mem_escaped {escapes : Class} {quote c : Char} (hc : c ≠ ' ') :
    ' ' ∉ escaped (fun _ => false) escapes quote c := by
  have hcode : ' ' ∉ codeEscape c.toNat := by
    unfold codeEscape
    split
    · simp [blank_not_mem_hexDigits]
    · split <;> simp [blank_not_mem_hexDigits]
  unfold escaped
  repeat' split
  all_goals first | exact hcode | simp [hc.symm]

theorem not_hasBlank_quoted {s : String} (h : ¬ HasBlank s) : quoted s ≠ "" ∧ ¬ HasBlank (quoted s) := by
  have hquote : quoteFor s.toList ≠ ' ' := by
    unfold quoteFor
    split <;> decide
  have hescaped : ∀ c ∈ s.toList, ' ' ∉ escaped (fun _ => false) hidden (quoteFor s.toList) c := by
    intro c hc
    exact blank_not_mem_escaped fun heq => h (show ' ' ∈ s.toList from heq ▸ hc)
  constructor
  · intro hempty
    have hlist := congrArg String.toList hempty
    simp [quoted, quotedBy] at hlist
  · simp only [HasBlank, quoted, quotedBy, String.toList_ofList, List.cons_append, List.mem_cons,
      List.mem_append, List.mem_flatMap, List.not_mem_nil, or_false]
    rintro (hblank | ⟨c, hc, hblank⟩ | hblank)
    · exact hquote hblank.symm
    · exact hescaped c hc hblank
    · exact hquote hblank.symm

end Text

theorem Fault.IsKeyless.text_ne {f : Fault} (h : f.IsKeyless) {name : String} (hname : ¬ Text.HasBlank name) :
    f.text ≠ (missingKey (Text.quoted name)).text := by
  intro htext
  obtain ⟨hempty, hblank⟩ := Text.not_hasBlank_quoted hname
  exact (h.hasBlank_text htext).elim hempty hblank

end ProgramDeploy
