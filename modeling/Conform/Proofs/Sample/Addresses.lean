import Conform.Internet.Url
import Conform.Proofs.Number.Hexadecimal
import Conform.Proofs.Source.Scanning
import Conform.Proofs.Text.Splitting
import Conform.Sample.Leaves

/-!
# Addresses among the samples

The addresses that are sampled are made of one fixed part and one or two drawn ones. They are read
as addresses, whatever is drawn.

## Main definitions

- `Internet.isV4_sample`, `Internet.isV6_sample` — internet addresses
- `Internet.isUrl_sample` — addresses of resources
-/

namespace Conform.Internet

variable {t word : Text} {a b n : Nat}

theorem isOctet_ofNat (h : n ≤ 255) : isOctet (Text.ofNat n) = true := by
  have hall : ∀ n < 256, isOctet (Text.ofNat n) = true := by decide +kernel
  exact hall n (Nat.lt_succ_of_le h)

/-- A private address of version four. -/
theorem isV4_sample (ha : a ≤ 255) (hb : b ≤ 255) :
    isV4 ("192.168." ++ Text.ofNat a ++ "." ++ Text.ofNat b) = true := by
  have hpoint (n : Nat) : '.'.toNat ∉ Text.ofNat n := fun h =>
    absurd (Text.isDigit_of_mem_ofNat h) (by decide)
  have hparts : Text.splitAll '.'.toNat ("192.168." ++ Text.ofNat a ++ "." ++ Text.ofNat b) =
      [Text.ofString "192", Text.ofString "168", Text.ofNat a, Text.ofNat b] := by
    rw [List.append_assoc, List.append_assoc]
    show Text.splitAll '.'.toNat (Text.ofString "192" ++ '.'.toNat :: (Text.ofString "168" ++
      '.'.toNat :: (Text.ofNat a ++ '.'.toNat :: Text.ofNat b))) = _
    rw [Text.splitAll_append (by decide), Text.splitAll_append (by decide),
      Text.splitAll_append (hpoint a), Text.splitAll_of_not_mem (hpoint b)]
  have hfixed : isOctet (Text.ofString "192") = true ∧ isOctet (Text.ofString "168") = true := by
    decide +kernel
  simp only [isV4, hparts]
  simp [hfixed, isOctet_ofNat ha, isOctet_ofNat hb]

theorem isV4_eq_false (h : '.'.toNat ∉ t) : isV4 t = false := by
  rw [isV4, Text.splitAll_of_not_mem h]
  rfl

theorem isGroup_hex (h : n < 16 ^ 4) : isGroup (Text.hex 1 n) = true := by
  simp only [isGroup, Bool.and_eq_true, decide_eq_true_eq, Bool.not_eq_true',
    List.isEmpty_eq_false_iff, List.all_eq_true]
  exact ⟨⟨Text.hex_ne_nil 1 n, (Text.length_hex_le (by decide) (by decide) h).2⟩,
    fun c hc => Text.hexValue?_of_mem_hex hc⟩

/-- An address of version six with one run left out, which is none of version four. -/
theorem isV6_sample (h : n < 16 ^ 4) : isV6 ("2001:db8::" ++ Text.hex 1 n) = true ∧
    isV4 ("2001:db8::" ++ Text.hex 1 n) = false := by
  have hdigit {c : CodePoint} (hc : Text.hexValue? c = none) : c ∉ Text.hex 1 n := fun hmem =>
    absurd (Text.hexValue?_of_mem_hex hmem) (by rw [hc]; decide)
  have hgroup := isGroup_hex h
  have hne := Text.hex_ne_nil 1 n
  generalize Text.hex 1 n = digits at *
  have hmark {c : CodePoint} (hfixed : c ∉ Text.ofString "2001:db8::")
      (hc : Text.hexValue? c = none) : c ∉ Text.ofString "2001:db8::" ++ digits := by
    rw [List.mem_append]
    exact not_or.mpr ⟨hfixed, hdigit hc⟩
  have hparts : Text.splitAll ':'.toNat ("2001:db8::" ++ digits) =
      [Text.ofString "2001", Text.ofString "db8", [], digits] := by
    show Text.splitAll ':'.toNat (Text.ofString "2001" ++ ':'.toNat :: (Text.ofString "db8" ++
      ':'.toNat :: ([] ++ ':'.toNat :: digits))) = _
    rw [Text.splitAll_append (by decide), Text.splitAll_append (by decide),
      Text.splitAll_append List.not_mem_nil, Text.splitAll_of_not_mem (hdigit (by decide))]
  have hgroups : groupParts? ("2001:db8::" ++ digits) =
      some [Text.ofString "2001", Text.ofString "db8", [], digits] := by
    simp only [groupParts?, hparts]
    exact (if_neg (by simp)).trans (if_neg (hdigit (by decide)))
  have hfixed : isGroup (Text.ofString "2001") = true ∧ isGroup (Text.ofString "db8") = true := by
    decide
  have haround :
      areGroupsAround 2 [Text.ofString "2001", Text.ofString "db8", [], digits] = true := by
    have hstart : ¬some (Text.ofString "2001") = some [] := by decide
    have hend : ¬some digits = some [] := by simpa using hne
    simp [areGroupsAround, hstart, hend, hgroup, hfixed]
  have hscopeless : isScopelessV6 ("2001:db8::" ++ digits) = true := by
    rw [isScopelessV6, hgroups]
    exact haround
  refine ⟨?_, isV4_eq_false (hmark (by decide) (by decide))⟩
  rw [isV6, Text.splitFirst?_eq_none (hmark (by decide) (by decide)), hscopeless, Bool.and_true]
  exact decide_eq_true (hmark (by decide) (by decide))

/-- An address of a resource with a path of small letters. -/
theorem isUrl_sample (h : ∀ c ∈ word, c ∈ Alphabet.small) :
    isUrl ("https://example.com/" ++ word) = true := by
  have hsplit : Text.splitFirst? ':'.toNat ("https://example.com/" ++ word) =
      some (Text.ofString "https", "//example.com/" ++ word) :=
    @Text.splitFirst?_append ':'.toNat (Text.ofString "https") (by decide) _
  have hclean : ∀ c ∈ Text.ofString "//example.com/" ++ word,
      (c != 9 && c != 10 && c != 13) = true := by
    have hsmall : ∀ c ∈ Text.ofString "//example.com/" ++ Alphabet.small,
      (c != 9 && c != 10 && c != 13) = true := by decide
    rw [List.forall_mem_append] at hsmall ⊢
    exact ⟨hsmall.1, fun c hc => hsmall.2 c (h c hc)⟩
  have hhost : namesHost ("//example.com/" ++ word) = true := by
    rw [namesHost, List.filter_eq_self.mpr hclean]
    rfl
  rw [isUrl, hsplit]
  simp only [hhost, Bool.or_true, Bool.and_true]
  rfl

end Conform.Internet
