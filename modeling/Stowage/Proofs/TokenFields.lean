import Stowage.Proofs.Texts
import Stowage.Token

/-! What a token says is what it was issued with: its three fields read back, and the only secret part is the
tag. The tag binds the signed text and so, the fields standing apart by a character that names may hold, the
name and the identity only up to where the separator between them is put. -/
namespace Stowage

namespace Text

/-- A number in the range of 64-bit words reads back as it was written. -/
theorem readI64?_ofInt {n : Int} (least : -0x8000000000000000 ≤ n) (most : n < 0x8000000000000000) :
    readI64? (ofInt n) = some n := by
  cases n with
  | ofNat n =>
    have unsigned : ∀ c ∈ Nat.toDigits 10 n, c.isDigit = true := fun _ => isDigit_of_mem_toDigits
    rw [readI64?, ofInt, String.toList_ofList]
    split
    · rename_i shown
      exact absurd (unsigned '-' (shown ▸ List.mem_cons_self)) (by decide)
    · rename_i shown
      exact absurd (unsigned '+' (shown ▸ List.mem_cons_self)) (by decide)
    · rw [readNat?_toDigits, Option.map_some, Option.bind_eq_bind, Option.bind_some]
      exact if_pos ⟨least, most⟩
  | negSucc n =>
    have digits : (do let a ← readNat? (Nat.toDigits 10 (n + 1)); pure (a : Int)) =
        some ((n + 1 : Nat) : Int) := by
      rw [readNat?_toDigits]
      rfl
    rw [readI64?, ofInt, String.toList_ofList]
    split
    · rename_i shown
      obtain ⟨-, rfl⟩ := List.cons.inj shown
      rw [digits, Option.map_some, Option.bind_eq_bind, Option.bind_some]
      exact if_pos ⟨least, most⟩
    · rename_i shown
      exact absurd (List.cons.inj shown).1 (by decide)
    · rename_i unsigned _
      exact absurd rfl (unsigned _)

/-- A written number holds no character but its digits and a sign. -/
theorem not_mem_ofInt {c : Char} (other : c.isDigit = false) (unsigned : c ≠ '-') (n : Int) :
    c ∉ (ofInt n).toList := by
  have clean (n : Nat) : c ∉ Nat.toDigits 10 n := fun member =>
    absurd (isDigit_of_mem_toDigits member) (by simp [other])
  cases n with
  | ofNat n => simpa [ofInt] using clean n
  | negSucc n => simpa [ofInt, unsigned] using clean (n + 1)

/-- Where two texts of two parts each are the same, the parts are, or one text has its separator further on. -/
theorem append_separated_eq_iff {sep : Char} {front back front' back' : String} :
    front ++ String.singleton sep ++ back = front' ++ String.singleton sep ++ back' ↔
      (front = front' ∧ back = back') ∨
        ∃ part,
          (front = front' ++ String.singleton sep ++ part ∧ back' = part ++ String.singleton sep ++ back) ∨
          (front' = front ++ String.singleton sep ++ part ∧ back = part ++ String.singleton sep ++ back') := by
  constructor
  · intro same
    have same := congrArg String.toList same
    simp only [String.toList_append, String.toList_singleton, List.append_assoc, List.singleton_append] at same
    rcases List.append_eq_append_iff.1 same with ⟨between, ahead, behind⟩ | ⟨between, ahead, behind⟩
    · rcases between with - | ⟨c, part⟩
      · rw [List.append_nil] at ahead
        exact .inl ⟨(String.toList_inj.1 ahead).symm, String.toList_inj.1 (List.cons.inj behind).2⟩
      · obtain ⟨rfl, behind⟩ := List.cons.inj behind
        exact .inr ⟨String.ofList part, .inr ⟨String.toList_inj.1 (by simp [ahead]),
          String.toList_inj.1 (by simpa using behind)⟩⟩
    · rcases between with - | ⟨c, part⟩
      · rw [List.append_nil] at ahead
        exact .inl ⟨String.toList_inj.1 ahead, (String.toList_inj.1 (List.cons.inj behind).2).symm⟩
      · obtain ⟨rfl, behind⟩ := List.cons.inj behind
        exact .inr ⟨String.ofList part, .inl ⟨String.toList_inj.1 (by simp [ahead]),
          String.toList_inj.1 (by simpa using behind)⟩⟩
  · rintro (⟨rfl, rfl⟩ | ⟨part, ⟨rfl, rfl⟩ | ⟨rfl, rfl⟩⟩) <;> simp only [String.append_assoc]

end Text

namespace Digest.Base64

theorem at_ne_char {n : Nat} (small : n < 64) : '@' ≠ char n := by
  have all : ∀ m : Fin 64, '@' ≠ char m := by decide
  exact all ⟨n, small⟩

/-- The alphabet has no `@`. -/
theorem at_not_mem_encode (bytes : List UInt8) : '@' ∉ encode bytes := by
  fun_induction encode bytes with
  | case1 => exact List.not_mem_nil
  | case2 a =>
    have := a.toNat_lt
    simp (disch := omega) [at_ne_char]
  | case3 a b =>
    have := a.toNat_lt
    have := b.toNat_lt
    simp (disch := omega) [at_ne_char]
  | case4 a b c rest ih =>
    have := a.toNat_lt
    have := b.toNat_lt
    have := c.toNat_lt
    simp (disch := omega) [at_ne_char, ih]

end Digest.Base64

namespace Token

variable {now : Int} {lifetime : Nat}

/-- A token runs out within 64-bit time. -/
theorem expiry_lt : expiry now lifetime < 0x8000000000000000 :=
  Int.lt_of_le_of_lt (Int.min_le_right _ _) (by decide)

theorem le_expiry {least : Int} (started : least ≤ now) (early : least ≤ endOfTime) :
    least ≤ expiry now lifetime := by
  refine Int.le_min.2 ⟨?_, early⟩
  have : (0 : Int) ≤ min (lifetime : Int) endOfTime := Int.le_min.2 ⟨Int.natCast_nonneg _, by decide⟩
  omega

/-- An issued token reads as its tag, the time that it runs out and what it is for, if the time reads back. -/
theorem read?_issue_eq (now : Int) (id file secret : String) (lifetime : Nat) (granted : Bool) :
    read? (issue now id file secret lifetime granted) =
      (Text.readI64? (Text.ofInt (expiry now lifetime))).map fun expires =>
        ⟨signature secret id file (expiry now lifetime) granted, expires, granted⟩ := by
  have at_eq : "@" = String.singleton '@' := rfl
  have tag : Text.cut '@' (issue now id file secret lifetime granted) =
      some (String.ofList (Digest.Base64.encode (signature secret id file (expiry now lifetime) granted)),
        Text.ofInt (expiry now lifetime) ++ "@" ++ modeText granted) := by
    simp only [issue, at_eq, String.append_assoc]
    rw [← String.append_assoc]
    exact Text.cut_append (by simpa using Digest.Base64.at_not_mem_encode _)
  have ends : Text.cut '@' (Text.ofInt (expiry now lifetime) ++ "@" ++ modeText granted) =
      some (Text.ofInt (expiry now lifetime), modeText granted) := by
    rw [at_eq]
    exact Text.cut_append (Text.not_mem_ofInt (by decide) (by decide) _)
  rw [read?, tag]
  simp only [Option.bind_eq_bind, Option.bind_some, ends, String.toList_ofList, Digest.Base64.decode?_encode]
  cases Text.readI64? (Text.ofInt (expiry now lifetime)) with
  | none => rfl
  | some expires => cases granted <;> rfl

/-- An issued token says when it runs out, what it is for, and the tag of its payload. -/
theorem read?_issue (id file secret : String) (granted : Bool) (started : -0x8000000000000000 ≤ now) :
    read? (issue now id file secret lifetime granted) =
      some ⟨signature secret id file (expiry now lifetime) granted, expiry now lifetime, granted⟩ := by
  have early : -0x8000000000000000 ≤ expiry now lifetime := le_expiry started (by decide)
  have time := Text.readI64?_ofInt early expiry_lt
  rw [read?_issue_eq, time]
  rfl

/-- How an issued token is checked, whoever presents it and for whichever file. -/
theorem check_issue {later : Int} {id file secret id' file' : String} {granted wanted : Bool}
    (started : -0x8000000000000000 ≤ now) :
    check later (issue now id file secret lifetime granted) id' file' secret wanted =
      if ∀ candidate ∈ [id', genericIdentity],
        signature secret candidate file' (expiry now lifetime) granted ≠
          signature secret id file (expiry now lifetime) granted then .invalid
      else if expiry now lifetime < later then .expired
      else if wanted ∧ ¬ granted then .wrongMode
      else .valid := by
  simp only [check, read?_issue id file secret granted started, beq_iff_eq, List.forall_mem_cons,
    List.not_mem_nil, false_implies, implies_true, and_true, ne_eq, not_or]

/-- Two pairs of a name and an identity that make one text, the separator between name and identity being
put at another place. -/
def Shifted (id file id' file' : String) : Prop :=
  ∃ part, (file' = file ++ "\x1d" ++ part ∧ id = part ++ "\x1d" ++ id') ∨
    (file = file' ++ "\x1d" ++ part ∧ id' = part ++ "\x1d" ++ id)

theorem ne_of_shifted {id file id' file' : String} (shifted : Shifted id file id' file') : file' ≠ file := by
  rintro rfl
  obtain ⟨part, ⟨same, -⟩ | ⟨same, -⟩⟩ := shifted
  all_goals
    have same := congrArg String.length same
    have separator : "\x1d".length = 1 := rfl
    simp only [String.length_append, separator] at same
    omega

/-- Payloads of one time and mode are one text exactly if name and identity are, or the separator is shifted. -/
theorem payload_eq_iff {id file id' file' : String} {expires : Int} {write : Bool} :
    payload id' file' expires write = payload id file expires write ↔
      (file' = file ∧ id' = id) ∨ Shifted id file id' file' := by
  have ends : payload id' file' expires write = payload id file expires write ↔
      file' ++ String.singleton '\x1d' ++ id' = file ++ String.singleton '\x1d' ++ id := by
    have separator : "\x1d" = String.singleton '\x1d' := rfl
    simp only [payload, separator, ← String.toList_inj, String.toList_append, List.append_left_inj]
  rw [ends, Text.append_separated_eq_iff]
  rfl

/-- The tag tells one text from the other. -/
def TellsApart (secret text other : String) : Prop :=
  Digest.hmac secret.toUTF8.toList text.toUTF8.toList = Digest.hmac secret.toUTF8.toList other.toUTF8.toList →
    text = other

theorem signature_eq_iff {secret id file id' file' : String} {expires : Int} {write : Bool}
    (apart : TellsApart secret (payload id' file' expires write) (payload id file expires write)) :
    signature secret id' file' expires write = signature secret id file expires write ↔
      (file' = file ∧ id' = id) ∨ Shifted id file id' file' := by
  rw [← payload_eq_iff]
  exact ⟨apart, fun same => by rw [signature, signature, same]⟩

/-- Where tags tell texts apart, a token's signature is accepted for the file and the identity that it was
issued for, or for everyone if that is the generic one, and besides exactly where the separator is shifted: a
token is then accepted for a file that it was not issued for. -/
theorem accepted_iff {now later : Int} {lifetime : Nat} {id file secret id' file' : String}
    {granted wanted : Bool} (started : -0x8000000000000000 ≤ now)
    (apart : ∀ candidate ∈ [id', genericIdentity],
      TellsApart secret (payload candidate file' (expiry now lifetime) granted)
        (payload id file (expiry now lifetime) granted)) :
    (check later (issue now id file secret lifetime granted) id' file' secret wanted ≠ .invalid ↔
      (file' = file ∧ (id' = id ∨ id = genericIdentity)) ∨
        ∃ candidate ∈ [id', genericIdentity], Shifted id file candidate file') ∧
    ((∃ candidate ∈ [id', genericIdentity], Shifted id file candidate file') → file' ≠ file) := by
  have signed : check later (issue now id file secret lifetime granted) id' file' secret wanted ≠ .invalid ↔
      ∃ candidate ∈ [id', genericIdentity],
        signature secret candidate file' (expiry now lifetime) granted =
          signature secret id file (expiry now lifetime) granted := by
    rw [check_issue started]
    split
    · rename_i unsigned
      simpa using unsigned
    · rename_i signed
      refine ⟨fun _ => by simpa only [ne_eq, not_forall, not_not, exists_prop] using signed, fun _ => ?_⟩
      split
      · exact Status.noConfusion
      · split <;> exact Status.noConfusion
  refine ⟨?_, fun ⟨_, _, shifted⟩ => ne_of_shifted shifted⟩
  rw [signed]
  constructor
  · rintro ⟨candidate, member, same⟩
    rcases (signature_eq_iff (apart candidate member)).1 same with ⟨rfl, rfl⟩ | shifted
    · rcases List.mem_pair.1 member with rfl | rfl
      · exact .inl ⟨rfl, .inl rfl⟩
      · exact .inl ⟨rfl, .inr rfl⟩
    · exact .inr ⟨candidate, member, shifted⟩
  · rintro (⟨rfl, rfl | rfl⟩ | ⟨candidate, member, shifted⟩)
    · exact ⟨_, List.mem_cons_self, rfl⟩
    · exact ⟨_, List.mem_cons_of_mem _ List.mem_cons_self, rfl⟩
    · exact ⟨candidate, member, (signature_eq_iff (apart candidate member)).2 (.inr shifted)⟩

/-- A token that bob was given for `srv/a/f\x1dalice` opens `srv/a/f` for a user `alice\x1dbob`. -/
theorem accepted_for_other_file :
    check 1030 (issue 1000 "bob" "srv/a/f\x1dalice" "test-secret" 60 true) "alice\x1dbob" "srv/a/f"
        "test-secret" true ≠ .invalid ∧
      Shifted "bob" "srv/a/f\x1dalice" "alice\x1dbob" "srv/a/f" := by
  have shifted : Shifted "bob" "srv/a/f\x1dalice" "alice\x1dbob" "srv/a/f" :=
    ⟨"alice", .inr ⟨by decide +kernel, by decide +kernel⟩⟩
  have apart : ∀ candidate ∈ ["alice\x1dbob", genericIdentity],
      TellsApart "test-secret" (payload candidate "srv/a/f" (expiry 1000 60) true)
        (payload "bob" "srv/a/f\x1dalice" (expiry 1000 60) true) := by
    unfold TellsApart
    decide +kernel
  exact ⟨(accepted_iff (by decide) apart).1.2 (.inr ⟨_, List.mem_cons_self, shifted⟩), shifted⟩

end Token

end Stowage
