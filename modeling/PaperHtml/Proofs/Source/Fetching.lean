import Mathlib
import PaperHtml.Source.Fetch

/-!
# Sources on the web and in files

The bytes of a source are decoded in the same way wherever it comes from, and
only the line ends of a file are made one.  So a source on the web reads like
one in a file as long as no carriage return is among its bytes.

## Strategy

Only a carriage return is changed when line ends are made one
(`normalizeLineEnds_eq_self_iff`).  A carriage return in a decoded text comes
from its own byte: a byte of a longer character is above the ASCII range, and so
is every number that such bytes come to, the shortest forms included, for the
decoder admits no byte with which a character would come out too small
(`Partial.Wide`).  Hence a text holds an ASCII character exactly if its bytes
hold the number of the character (`mem_decode_iff`), whatever else is wrong with
them.
-/

namespace PaperHtml

namespace Text

/-! ## Line ends -/

theorem return_not_mem_normalizeLineEnds (t : Text) : '\r' ∉ normalizeLineEnds t := by
  fun_induction normalizeLineEnds t with
  | case1 => simp
  | case2 rest ih => simp [ih]
  | case3 rest _ ih => simp [ih]
  | case4 c rest _ hc ih =>
      rw [List.mem_cons, not_or]
      exact ⟨fun hreturn => hc hreturn.symm, ih⟩

theorem normalizeLineEnds_of_not_mem {t : Text} (h : '\r' ∉ t) : normalizeLineEnds t = t := by
  fun_induction normalizeLineEnds t with
  | case1 => rfl
  | case2 rest ih => simp at h
  | case3 rest _ ih => simp at h
  | case4 c rest _ _ ih => rw [ih fun hmem => h (List.mem_cons_of_mem _ hmem)]

/-- Making line ends one changes a text exactly if a carriage return is in it. -/
theorem normalizeLineEnds_eq_self_iff {t : Text} : normalizeLineEnds t = t ↔ '\r' ∉ t :=
  ⟨fun h => h ▸ return_not_mem_normalizeLineEnds t, normalizeLineEnds_of_not_mem⟩

end Text

namespace Utf8

/-! ## ASCII characters in a decoded text -/

/-- The smallest number that a character which has begun can come to. -/
def Partial.least (p : Partial) : Nat := (p.bits * 64 + (p.low - 0x80)) * 64 ^ (p.following - 1)

/-- A character that has begun, of which neither the next byte nor the number is in the ASCII
range. -/
structure Partial.Wide (p : Partial) : Prop where
  low : 0x80 ≤ p.low
  least : 0x80 ≤ p.least

/-- A character begun by a first byte. -/
def Lead.begun (l : Lead) : Partial := ⟨l.bits, l.following, l.low, l.high⟩

theorem wide_begun {b : Byte} {l : Lead} (h : lead? b = some l) : l.begun.Wide := by
  unfold lead? at h
  unfold Byte at *
  split_ifs at h <;> cases h <;> constructor <;> simp only [Lead.begun, Partial.least] <;>
    (unfold Byte; omega)

/-- A byte that goes on with a character does not make the number of the character smaller. -/
theorem Partial.Wide.least_le {p : Partial} (h : p.Wide) {b : Byte} (hb : p.low ≤ b) :
    0x80 ≤ (p.bits * 64 + (b - 0x80)) * 64 ^ (p.following - 1) :=
  h.least.trans (Nat.mul_le_mul_right _ (Nat.add_le_add_left (Nat.sub_le_sub_right hb 0x80) _))

theorem Partial.Wide.next {p : Partial} (h : p.Wide) {b : Byte} (hb : p.low ≤ b)
    (hfollowing : ¬ p.following ≤ 1) :
    Partial.Wide ⟨p.bits * 64 + (b - 0x80), p.following - 1, 0x80, 0xBF⟩ := by
  obtain ⟨n, hn⟩ : ∃ n, p.following = n + 2 := ⟨p.following - 2, by omega⟩
  refine ⟨Nat.le_refl _, (h.least_le hb).trans_eq ?_⟩
  rw [Partial.least, hn]
  simp only [Nat.add_one_sub_one, Nat.sub_self, Nat.add_zero, pow_succ]
  ring

/-- A number that is no character gives the character with the number zero, and so no other. -/
theorem eq_ofNat_iff {c : Char} (hc : 0 < c.toNat) {n : Nat} : c = Char.ofNat n ↔ c.toNat = n := by
  constructor
  · rintro rfl
    rw [Char.toNat_ofNat] at hc ⊢
    split at hc
    · rw [if_pos ‹_›]
    · exact absurd hc (Nat.lt_irrefl 0)
  · rintro rfl
    exact (Char.ofNat_toNat c).symm

/-- A text holds an ASCII character exactly if its bytes do, however a character that has begun in
front of them goes on. -/
theorem mem_decodeFrom_iff {c : Char} (hzero : 0 < c.toNat) (hascii : c.toNat < 0x80)
    {pending : Option Partial} (hpending : ∀ p ∈ pending, p.Wide) (bytes : List Byte) :
    c ∈ decodeFrom pending bytes ↔ c.toNat ∈ bytes := by
  have hnumber {n : Nat} : c = Char.ofNat n ↔ c.toNat = n := eq_ofNat_iff hzero
  have hreplacement : c ≠ replacement := by
    rintro rfl
    exact absurd hascii (by decide)
  have hbyte {b : Byte} (hb : 0x80 ≤ b) : c.toNat ≠ b := (hascii.trans_le hb).ne
  fun_induction decodeFrom pending bytes with
  | case1 => simp
  | case2 p => simp [hreplacement]
  | case3 p b rest hb bits hlast ih =>
      -- the last byte of a character, which is too large to be the one looked for
      have hp := hpending p rfl
      have hbits : 0x80 ≤ bits := by
        have hleast := hp.least_le hb.1
        rwa [Nat.sub_eq_zero_of_le hlast, pow_zero, mul_one] at hleast
      simp [hnumber, hbyte (hp.low.trans hb.1), hbyte hbits, ih]
  | case4 p b rest hb bits hlast ih =>
      have hp := hpending p rfl
      have hnext := ih fun q hq => Option.mem_some_iff.mp hq ▸ hp.next hb.1 hlast
      simp [hbyte (hp.low.trans hb.1), hnext]
  -- the character breaks off in front of a byte that is one, begins one, or is neither
  | case5 p b rest _ _ ih => simp [hreplacement, hnumber, ih]
  | case6 p b rest _ hb l hl ih =>
      have hnext := ih fun q hq => Option.mem_some_iff.mp hq ▸ wide_begun hl
      simp [hreplacement, hbyte (Nat.le_of_not_lt hb), hnext]
  | case7 p b rest _ hb _ ih => simp [hreplacement, hbyte (Nat.le_of_not_lt hb), ih]
  | case8 b rest _ ih => simp [hnumber, ih]
  | case9 b rest hb l hl ih =>
      have hnext := ih fun q hq => Option.mem_some_iff.mp hq ▸ wide_begun hl
      simp [hbyte (Nat.le_of_not_lt hb), hnext]
  | case10 b rest hb _ ih => simp [hreplacement, hbyte (Nat.le_of_not_lt hb), ih]

/-- However malformed the bytes are, a text holds an ASCII character exactly if they do. -/
theorem mem_decode_iff {c : Char} (hzero : 0 < c.toNat) (hascii : c.toNat < 0x80)
    (bytes : List Byte) : c ∈ decode bytes ↔ c.toNat ∈ bytes :=
  mem_decodeFrom_iff hzero hascii (by simp) bytes

end Utf8

namespace Source

open Text

/-- A file and a page of the web with the same bytes, however malformed, are decoded to the same
text, but the line ends of the file are made one, which makes no difference exactly if there is no
carriage return among the bytes. -/
theorem file_and_web_read_alike {world : Surroundings} {path address reason : Text} {status : Nat}
    {bytes : List Byte} (hpath : isUrl world.rules path = .ok false) (hnull : Char.ofNat 0 ∉ path)
    (hfile : world.folder.read path = .ok bytes) (haddress : isUrl world.rules address = .ok true)
    (hreply : world.request address = .response status reason bytes)
    (hstatus : refusal? status = none) :
    (fetch world address).result = .ok (Utf8.decode bytes) ∧
      (fetch world path).result = .ok (normalizeLineEnds (Utf8.decode bytes)) ∧
      ((fetch world path).result = (fetch world address).result ↔ '\r'.toNat ∉ bytes) := by
  have hremote : (fetch world address).result = .ok (Utf8.decode bytes) := by
    simp only [fetch, fetchBy, haddress, fetchUrl, hreply, hstatus]
  have hlocal : (fetch world path).result = .ok (normalizeLineEnds (Utf8.decode bytes)) := by
    have hcontains : path.contains (Char.ofNat 0) = false := by simpa using hnull
    simp only [fetch, fetchBy, hpath, fetchFile, hcontains, hfile, Except.mapError,
      Bool.false_eq_true, if_false]
  refine ⟨hremote, hlocal, ?_⟩
  rw [hremote, hlocal, Except.ok.injEq, normalizeLineEnds_eq_self_iff,
    Utf8.mem_decode_iff (by decide) (by decide)]

/-- A world with one file and one page, which hold the same bytes. -/
def mirrored (bytes : List Byte) : Surroundings where
  folder := { home := "/w".toList, files := [(["a.tex".toList], bytes)] }
  request _ := .response 200 "OK".toList bytes

/-- Characters that break off, a line feed among them, and bytes that begin none. -/
def malformed : List Byte := [0x61, 0xE2, 0x82, 0x0A, 0xF0, 0xFF, 0xC3]

theorem file_and_web_read_alike_of_malformed :
    (fetch (mirrored malformed) "a.tex".toList).result =
      (fetch (mirrored malformed) "http://h/a".toList).result := by
  have hread := @file_and_web_read_alike (mirrored malformed) "a.tex".toList "http://h/a".toList
    "OK".toList 200 malformed rfl (by decide) rfl rfl rfl rfl
  exact hread.2.2.mpr (by decide)

/-- A page of the web keeps the line ends that are made one in a file. -/
theorem line_ends_differ_on_web :
    (fetch (mirrored [0x61, 0x0D, 0x0A, 0x62]) "a.tex".toList).result = .ok "a\nb".toList ∧
      (fetch (mirrored [0x61, 0x0D, 0x0A, 0x62]) "http://h/a".toList).result =
        .ok "a\r\nb".toList := by
  decide +kernel

end Source

end PaperHtml
