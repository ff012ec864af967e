import QuickFix.Lsp.Uri
import QuickFix.Proofs.Utf8

/-!
Reading a URI undoes writing one. A byte that is written as it is stands for itself, for it is no
percent sign; any other is written as an escape, which is read as that byte whatever stands behind
it. So absolute paths have different URIs.
-/

namespace QuickFix.Uri

theorem utf8EncodeChar_of_lt {c : Char} (hc : c.toNat < 0x80) :
    String.utf8EncodeChar c = [UInt8.ofNat c.toNat] := by
  change ite (c.toNat ≤ 0x7F) [UInt8.ofNat c.toNat] _ = _
  rw [if_pos (by omega)]

theorem toNat_ofNat_of_lt {n : Nat} (hn : n < 0x80) : (Char.ofNat n).toNat = n := by
  have hvalid : n.isValidChar := .inl (by omega)
  rw [Char.ofNat, dif_pos hvalid]
  rfl

theorem isPlain_iff {b : UInt8} (hplain : isPlain b = true) : b.toNat < 0x80 ∧ b ≠ 0x25 := by
  simp only [isPlain, Bool.or_eq_true, Bool.and_eq_true, decide_eq_true_eq] at hplain
  have hpercent : b ≠ 0x25 ↔ b.toNat ≠ 0x25 := by
    rw [ne_eq, ne_eq, ← UInt8.toNat_inj]
    rfl
  rw [hpercent]
  omega

theorem hexDigit_lt (n : Fin 16) : (hexDigit n).toNat < 0x80 := by
  revert n
  decide

theorem hexValue?_hexDigit (n : Fin 16) :
    hexValue? (UInt8.ofNat (hexDigit n).toNat) = some (UInt8.ofNat n) := by
  revert n
  decide

theorem escaped?_hexDigit (b : UInt8) :
    escaped? (UInt8.ofNat (hexDigit (b.toNat / 16)).toNat)
      (UInt8.ofNat (hexDigit (b.toNat % 16)).toNat) = some b := by
  have hb := b.toNat_lt
  have hhigh := hexValue?_hexDigit ⟨b.toNat / 16, by omega⟩
  have hlow := hexValue?_hexDigit ⟨b.toNat % 16, by omega⟩
  simp only at hhigh hlow
  rw [escaped?, hhigh, hlow]
  simp only [Option.some.injEq, ← UInt8.toNat_inj, UInt8.toNat_add, UInt8.toNat_mul,
    UInt8.toNat_ofNat']
  change ((b.toNat / 16 % 2 ^ 8 * 16) % 2 ^ 8 + b.toNat % 16 % 2 ^ 8) % 2 ^ 8 = b.toNat
  omega

theorem decodeBytes_cons_of_ne {a : UInt8} (ha : a ≠ 0x25) (rest : List UInt8) :
    decodeBytes (a :: rest) = a :: decodeBytes rest := by
  match rest with
  | [] => rfl
  | [b] => rfl
  | b :: c :: rest => rw [decodeBytes, if_neg ha]

theorem decodeBytes_escape {b c value : UInt8} (hescaped : escaped? b c = some value)
    (rest : List UInt8) : decodeBytes (0x25 :: b :: c :: rest) = value :: decodeBytes rest := by
  rw [decodeBytes, if_pos rfl, hescaped]

/-- A byte that was written is read as that byte. -/
theorem decodeBytes_encodeByte (b : UInt8) (rest : List UInt8) :
    decodeBytes (Text.bytesOf (encodeByte b) ++ rest) = b :: decodeBytes rest := by
  unfold encodeByte
  cases hplain : isPlain b with
  | true =>
      obtain ⟨hascii, hpercent⟩ := isPlain_iff hplain
      have hchar := toNat_ofNat_of_lt hascii
      have hbytes : Text.bytesOf [Char.ofNat b.toNat] = [b] := by
        rw [Text.bytesOf, List.flatMap_singleton, utf8EncodeChar_of_lt (by rwa [hchar]), hchar,
          UInt8.ofNat_toNat]
      rw [if_pos rfl, hbytes]
      exact decodeBytes_cons_of_ne hpercent rest
  | false =>
      have hb := b.toNat_lt
      have hhigh := hexDigit_lt ⟨b.toNat / 16, by omega⟩
      have hlow := hexDigit_lt ⟨b.toNat % 16, by omega⟩
      have hbytes : Text.bytesOf ['%', hexDigit (b.toNat / 16), hexDigit (b.toNat % 16)] =
          [0x25, UInt8.ofNat (hexDigit (b.toNat / 16)).toNat,
            UInt8.ofNat (hexDigit (b.toNat % 16)).toNat] := by
        simp only [Text.bytesOf, List.flatMap_cons, List.flatMap_nil, utf8EncodeChar_of_lt hhigh,
          utf8EncodeChar_of_lt hlow]
        rfl
      rw [if_neg nofun, hbytes]
      exact decodeBytes_escape (escaped?_hexDigit b) rest

theorem decodeBytes_flatMap_encodeByte (bytes : List UInt8) :
    decodeBytes (Text.bytesOf (bytes.flatMap encodeByte)) = bytes := by
  induction bytes with
  | nil => rfl
  | cons b rest ih =>
      have hbytes : Text.bytesOf ((b :: rest).flatMap encodeByte) =
          Text.bytesOf (encodeByte b) ++ Text.bytesOf (rest.flatMap encodeByte) := by
        rw [List.flatMap_cons, Text.bytesOf, List.flatMap_append]
        rfl
      rw [hbytes, decodeBytes_encodeByte, ih]

/-- What was written is read as it was. -/
theorem decode_encode (path : String) : decode (encode path) = path := by
  rw [decode, encode, String.toList_ofList, decodeBytes_flatMap_encodeByte, Text.ofBytes_bytesOf,
    String.ofList_toList]

theorem fromRoot_of_isAbsolute {path : Path} (habsolute : path.isAbsolute = true)
    (workingDirectory : Option Path) : fromRoot workingDirectory path = path :=
  if_pos habsolute

theorem isAbsolute_join {directory : Path} (hdirectory : directory.isAbsolute = true)
    (path : Path) : (directory.join path).isAbsolute = true := by
  have hfront : ∀ behind : String, Path.isAbsolute ⟨directory.text ++ behind⟩ = true := by
    intro behind
    simp only [Path.isAbsolute, decide_eq_true_eq] at hdirectory ⊢
    rw [String.toList_append, List.head?_append, hdirectory, Option.some_or]
  unfold Path.join
  split
  case isTrue habsolute => exact habsolute
  split
  · exact hfront path.text
  · rw [String.append_assoc]
    exact hfront ("/" ++ path.text)

theorem fromRoot_some (directory path : Path) :
    fromRoot (some directory) path = directory.join path := by
  by_cases habsolute : path.isAbsolute = true
  · rw [fromRoot, if_pos habsolute, Path.join, if_pos habsolute]
  · rw [fromRoot, if_neg habsolute, Option.map_some, Option.getD_some]

/-- The host is dropped only where it stands in front, so never from an absolute path. -/
theorem dropPrefix?_localHost {path : Path} (habsolute : path.isAbsolute = true) :
    Text.dropPrefix? localHost (encode path.text).toList = none := by
  obtain ⟨rest, hrest⟩ : ∃ rest, path.text.toList = '/' :: rest := by
    cases hlist : path.text.toList with
    | nil => simp [Path.isAbsolute, hlist] at habsolute
    | cons c rest =>
        simp only [Path.isAbsolute, hlist, List.head?_cons, Option.some.injEq,
          decide_eq_true_eq] at habsolute
        exact ⟨rest, by rw [habsolute]⟩
  have hfirst : (encode path.text).toList =
      '/' :: (Text.bytesOf rest).flatMap encodeByte := by
    rw [encode, String.toList_ofList, hrest]
    rfl
  rw [hfirst]
  rfl

/-- The path of a URI is the path that it was made of, as it was written. -/
theorem path?_ofPath_of_fromRoot {path : Path} {workingDirectory : Option Path}
    (habsolute : (fromRoot workingDirectory path).isAbsolute = true) :
    path? (ofPath path workingDirectory) = some (fromRoot workingDirectory path) := by
  have hscheme : Text.dropPrefix? scheme (ofPath path workingDirectory).toList =
      some (encode (fromRoot workingDirectory path).text).toList := by
    rw [ofPath, String.toList_append, String.toList_ofList]
    rfl
  simp only [path?, hscheme, dropPrefix?_localHost habsolute, Option.getD_none,
    String.ofList_toList, decode_encode]

theorem path?_ofPath {path : Path} (habsolute : path.isAbsolute = true)
    (workingDirectory : Option Path) : path? (ofPath path workingDirectory) = some path := by
  have hpath := fromRoot_of_isAbsolute habsolute workingDirectory
  rw [path?_ofPath_of_fromRoot (by rwa [hpath]), hpath]

/-- A relative path is read as the one that begins in the working directory. -/
theorem path?_ofPath_some {directory : Path} (hdirectory : directory.isAbsolute = true)
    (path : Path) : path? (ofPath path (some directory)) = some (directory.join path) := by
  have hpath := fromRoot_some directory path
  rw [path?_ofPath_of_fromRoot (by rw [hpath, isAbsolute_join hdirectory]), hpath]

/-- Absolute paths that are written differently have different URIs. -/
theorem ofPath_inj {path other : Path} (hpath : path.isAbsolute = true)
    (hother : other.isAbsolute = true) {workingDirectory : Option Path}
    (heq : ofPath path workingDirectory = ofPath other workingDirectory) : path = other := by
  have hread := path?_ofPath hpath workingDirectory
  rw [heq, path?_ofPath hother] at hread
  exact (Option.some.inj hread).symm

end QuickFix.Uri
