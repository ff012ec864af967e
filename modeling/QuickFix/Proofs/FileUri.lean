import QuickFix.Proofs.History
import QuickFix.Proofs.Uri

/-!
File URIs as names of documents. What is written is made of unreserved characters, slashes and
escapes, and no two texts are written in the same way. A text without an escape is read as it is:
the bytes of other characters are no ASCII, so a percent sign and two digits among the bytes are the
same three characters in the text. The URI of an absolute path leads back to that path, and so to
the document that is open there, in whatever spelling.
-/

namespace QuickFix

namespace Uri

variable {c : Char} {cs : List Char} {b : UInt8}

/-- The characters of ASCII that a URI reserves for nothing. -/
def IsUnreserved (c : Char) : Prop := c.isAlphanum = true ∨ c ∈ ['-', '.', '_', '~']

/-- Whether a character is a hexadecimal digit, small or capital. -/
def IsHexDigit (c : Char) : Prop :=
  '0' ≤ c ∧ c ≤ '9' ∨ 'a' ≤ c ∧ c ≤ 'f' ∨ 'A' ≤ c ∧ c ≤ 'F'

instance (c : Char) : Decidable (IsUnreserved c) := inferInstanceAs (Decidable (_ ∨ _))

instance (c : Char) : Decidable (IsHexDigit c) := inferInstanceAs (Decidable (_ ∨ _ ∨ _))

/-- The pieces that a written path is made of. -/
inductive Piece : List Char → Prop where
  | unreserved {c : Char} (hc : IsUnreserved c) : Piece [c]
  | slash : Piece ['/']
  | escape {high low : Char} (hhigh : IsHexDigit high) (hlow : IsHexDigit low) :
    Piece ['%', high, low]

/-- Whether a text is made of such pieces. -/
def Written (cs : List Char) : Prop :=
  ∃ pieces : List (List Char), cs = pieces.flatten ∧ ∀ piece ∈ pieces, Piece piece

/-- Whether a percent sign with two digits behind it stands in a text. -/
def HasEscape (cs : List Char) : Prop :=
  ∃ high low, ['%', high, low] <:+: cs ∧ IsHexDigit high ∧ IsHexDigit low

theorem plain_of_isPlain (n : Fin 128) (hplain : isPlain (UInt8.ofNat n) = true) :
    IsUnreserved (Char.ofNat n) ∨ Char.ofNat n = '/' := by
  revert n
  decide

theorem isHexDigit_hexDigit (n : Fin 16) : IsHexDigit (hexDigit n) := by
  revert n
  decide

theorem piece_encodeByte (b : UInt8) : Piece (encodeByte b) := by
  unfold encodeByte
  cases hplain : isPlain b with
  | true =>
      have hascii := (isPlain_iff hplain).1
      rw [if_pos rfl]
      rcases plain_of_isPlain ⟨b.toNat, hascii⟩ (by rwa [UInt8.ofNat_toNat]) with hc | hslash
      · exact .unreserved hc
      · exact hslash ▸ .slash
  | false =>
      have hb := b.toNat_lt
      rw [if_neg nofun]
      exact .escape (isHexDigit_hexDigit ⟨b.toNat / 16, by omega⟩)
        (isHexDigit_hexDigit ⟨b.toNat % 16, by omega⟩)

theorem written_encode (path : String) : Written (encode path).toList := by
  refine ⟨(Text.bytesOf path.toList).map encodeByte, ?_, fun piece hpiece => ?_⟩
  · rw [encode, String.toList_ofList, List.flatMap_def]
  · obtain ⟨b, _, rfl⟩ := List.mem_map.mp hpiece
    exact piece_encodeByte b

theorem encode_injective : Function.Injective encode := by
  intro path other heq
  rw [← decode_encode path, heq, decode_encode]

/-- The bytes of a character that is not ASCII are none themselves. -/
theorem le_of_mem_utf8EncodeChar (hc : 0x80 ≤ c.toNat) (hb : b ∈ String.utf8EncodeChar c) :
    0x80 ≤ b.toNat := by
  have hwide : ¬ c.val.toNat ≤ 0x7F := Nat.not_le_of_lt hc
  change b ∈ ite (c.val.toNat ≤ 0x7F) _ _ at hb
  rw [if_neg hwide] at hb
  split at hb
  · rcases List.mem_pair.mp hb with rfl | rfl <;> rw [UInt8.toNat_ofNat'] <;> omega
  split at hb <;> simp only [List.mem_cons, List.not_mem_nil, or_false] at hb
  · rcases hb with rfl | rfl | rfl <;> rw [UInt8.toNat_ofNat'] <;> omega
  · rcases hb with rfl | rfl | rfl | rfl <;> rw [UInt8.toNat_ofNat'] <;> omega

theorem exists_of_bytesOf_eq_cons {bytes : List UInt8} (hbytes : Text.bytesOf cs = b :: bytes)
    (hb : b.toNat < 0x80) :
    ∃ c rest, cs = c :: rest ∧ c.toNat = b.toNat ∧ Text.bytesOf rest = bytes := by
  cases cs with
  | nil => cases hbytes
  | cons c rest =>
      have hsplit : String.utf8EncodeChar c ++ Text.bytesOf rest = b :: bytes := hbytes
      by_cases hc : c.toNat < 0x80
      · rw [utf8EncodeChar_of_lt hc, List.singleton_append] at hsplit
        obtain ⟨rfl, hrest⟩ := List.cons.inj hsplit
        refine ⟨c, rest, rfl, ?_, hrest⟩
        rw [UInt8.toNat_ofNat']
        omega
      · have hne : String.utf8EncodeChar c ≠ [] := String.utf8EncodeChar_ne_nil
        obtain ⟨first, more, hchar⟩ := List.exists_cons_of_ne_nil hne
        rw [hchar, List.cons_append] at hsplit
        obtain ⟨rfl, _⟩ := List.cons.inj hsplit
        have hwide := le_of_mem_utf8EncodeChar (Nat.le_of_not_lt hc) (hchar ▸ List.mem_cons_self)
        exact absurd hb (Nat.not_lt_of_le hwide)

theorem bounds_of_hexValue? {value : UInt8} (hvalue : hexValue? b = some value) :
    0x30 ≤ b.toNat ∧ b.toNat ≤ 0x39 ∨ 0x61 ≤ b.toNat ∧ b.toNat ≤ 0x66 ∨
      0x41 ≤ b.toNat ∧ b.toNat ≤ 0x46 := by
  simp only [hexValue?, UInt8.le_iff_toNat_le] at hvalue
  split at hvalue
  case isTrue hdigit => exact .inl hdigit
  split at hvalue
  case isTrue hsmall => exact .inr (.inl hsmall)
  split at hvalue
  case isTrue hcapital => exact .inr (.inr hcapital)
  case isFalse => cases hvalue

theorem isHexDigit_of_hexValue? {value : UInt8} (hvalue : hexValue? b = some value)
    (hc : c.toNat = b.toNat) : IsHexDigit c := by
  have hle : ∀ {low high : Char}, low ≤ c ∧ c ≤ high ↔
      low.toNat ≤ b.toNat ∧ b.toNat ≤ high.toNat := by
    intro low high
    rw [Char.le_def, Char.le_def, UInt32.le_iff_toNat_le, UInt32.le_iff_toNat_le, ← hc]
    rfl
  simp only [IsHexDigit, hle]
  exact bounds_of_hexValue? hvalue

theorem exists_of_escaped? {high low value : UInt8} (hescaped : escaped? high low = some value) :
    (∃ h, hexValue? high = some h) ∧ ∃ l, hexValue? low = some l := by
  unfold escaped? at hescaped
  split at hescaped
  case h_1 h l hhigh hlow => exact ⟨⟨h, hhigh⟩, l, hlow⟩
  case h_2 => cases hescaped

/-- An escape among the bytes behind a percent sign is one in the text. -/
theorem hasEscape_of_escaped? {high low value : UInt8} {more : List UInt8}
    (hbytes : Text.bytesOf cs = high :: low :: more) (hescaped : escaped? high low = some value) :
    HasEscape ('%' :: cs) := by
  obtain ⟨⟨h, hhigh⟩, l, hlow⟩ := exists_of_escaped? hescaped
  have hfirst := bounds_of_hexValue? hhigh
  have hsecond := bounds_of_hexValue? hlow
  obtain ⟨first, rest, rfl, heq, hrest⟩ := exists_of_bytesOf_eq_cons hbytes (by omega)
  obtain ⟨second, tail, rfl, heq', _⟩ := exists_of_bytesOf_eq_cons hrest (by omega)
  exact ⟨first, second, (List.prefix_append ['%', first, second] tail).isInfix,
    isHexDigit_of_hexValue? hhigh heq, isHexDigit_of_hexValue? hlow heq'⟩

theorem decodeBytes_percent {rest : List UInt8}
    (hnone : ∀ high low more, rest = high :: low :: more → escaped? high low = none) :
    decodeBytes (0x25 :: rest) = 0x25 :: decodeBytes rest := by
  match rest with
  | [] => rfl
  | [b] => rfl
  | high :: low :: more => rw [decodeBytes, if_pos rfl, hnone high low more rfl]

theorem decodeBytes_append {front : List UInt8} (hfront : 0x25 ∉ front) (rest : List UInt8) :
    decodeBytes (front ++ rest) = front ++ decodeBytes rest := by
  induction front with
  | nil => rfl
  | cons b front ih =>
      rw [List.mem_cons, not_or] at hfront
      rw [List.cons_append, decodeBytes_cons_of_ne (Ne.symm hfront.1), ih hfront.2,
        List.cons_append]

theorem percent_not_mem_utf8EncodeChar (hc : c ≠ '%') : 0x25 ∉ String.utf8EncodeChar c := by
  intro hmem
  by_cases hascii : c.toNat < 0x80
  · rw [utf8EncodeChar_of_lt hascii, List.mem_singleton, ← UInt8.toNat_inj,
      UInt8.toNat_ofNat'] at hmem
    have hpercent : c.toNat = '%'.toNat := by
      change 0x25 = c.toNat % 256 at hmem
      change c.toNat = 0x25
      omega
    exact hc (Char.toNat_inj.mp hpercent)
  · have hwide := le_of_mem_utf8EncodeChar (Nat.le_of_not_lt hascii) hmem
    exact absurd hwide (by decide)

theorem HasEscape.cons (hescape : HasEscape cs) (c : Char) : HasEscape (c :: cs) := by
  obtain ⟨high, low, hinfix, hdigits⟩ := hescape
  exact ⟨high, low, List.infix_cons hinfix, hdigits⟩

theorem decodeBytes_bytesOf (hescape : ¬ HasEscape cs) :
    decodeBytes (Text.bytesOf cs) = Text.bytesOf cs := by
  induction cs with
  | nil => rfl
  | cons c cs ih =>
      have hrest := ih fun hlater => hescape (hlater.cons c)
      by_cases hc : c = '%'
      · subst hc
        have hnone : ∀ high low more, Text.bytesOf cs = high :: low :: more →
            escaped? high low = none := by
          intro high low more hbytes
          rw [Option.eq_none_iff_forall_ne_some]
          exact fun value hescaped => hescape (hasEscape_of_escaped? hbytes hescaped)
        have hread := decodeBytes_percent hnone
        rw [hrest] at hread
        exact hread
      · have hread := decodeBytes_append (percent_not_mem_utf8EncodeChar hc) (Text.bytesOf cs)
        rw [hrest] at hread
        exact hread

/-- A text without an escape is read as it is. -/
theorem decode_of_not_hasEscape {text : String} (hescape : ¬ HasEscape text.toList) :
    decode text = text := by
  rw [decode, decodeBytes_bytesOf hescape, Text.ofBytes_bytesOf, String.ofList_toList]

/-- The URI of any spelling of its path leads to an open document. -/
theorem document?_ofPath {w : Workspace} (hintact : w.Intact) {d : Document}
    (hopen : d ∈ w.openDocuments) {path : Path} (habsolute : path.isAbsolute = true)
    (hsame : path.components = d.path.components) (workingDirectory : Option Path) :
    document? w.source (ofPath path workingDirectory) = some d := by
  have hfound : w.document? d.path = some d := hintact.mem_openDocuments.mp hopen
  rw [document?, path?_ofPath habsolute, Option.bind_some]
  change w.documents[path.components]? = some d
  rw [hsame]
  exact hfound

/-- What is written comes back, in its characters and in the documents that it names. A working
directory means something to relative paths only. -/
theorem names_documents :
    (∀ text, decode (encode text) = text ∧ Written (encode text).toList) ∧
      Function.Injective encode ∧
      (∀ path : Path, path.isAbsolute = true → ∀ workingDirectory,
        path? (ofPath path workingDirectory) = some path) ∧
      (∀ directory : Path, directory.isAbsolute = true → ∀ path,
        path? (ofPath path (some directory)) = some (directory.join path)) ∧
      (∀ calls, ∀ d ∈ (Workspace.history calls).openDocuments, ∀ path : Path,
        path.isAbsolute = true → path.components = d.path.components → ∀ workingDirectory,
          document? (Workspace.history calls).source (ofPath path workingDirectory) = some d) ∧
      ∀ text : String, ¬ HasEscape text.toList → decode text = text := by
  refine ⟨fun text => ⟨decode_encode text, written_encode text⟩, encode_injective,
    fun path => path?_ofPath, fun directory => path?_ofPath_some,
    fun calls d hopen path habsolute hsame workingDirectory => ?_,
    fun text => decode_of_not_hasEscape⟩
  exact document?_ofPath (Workspace.empty_intact.foldl_afterCall calls) hopen habsolute hsame _

end Uri

namespace FileUriWitness

/-- A path with the spelling of an escape in a name, and with a name that begins as the host does.
-/
def path : Path := ⟨"/w/./100%41//localhost é"⟩

def calls : List Workspace.Call := [.operation (.openDocument path "rust" "x")]

def document : Document := .ofText path "rust" "x"

/-- The same path in another spelling. -/
def other : Path := ⟨"/w/100%41/localhost é/"⟩

theorem openDocuments_history : (Workspace.history calls).openDocuments = [document] := by cbv

theorem not_hasEscape_text : ¬ Uri.HasEscape "%4g".toList := by
  rintro ⟨high, low, hinfix, _, hlow⟩
  have heq := hinfix.eq_of_length rfl
  have hg : low = 'g' := by simpa using congrArg List.getLast? heq
  exact absurd (hg ▸ hlow) (by decide)

/-- Both spellings lead to the document, and what only looks like an escape is left alone. A
relative path is read as one in the working directory. -/
theorem document_named :
    (document ∈ (Workspace.history calls).openDocuments ∧ other.isAbsolute = true ∧
        other.components = document.path.components) ∧
      Uri.document? (Workspace.history calls).source "file:///w/100%2541/localhost%20%C3%A9/" =
        some document ∧
      Uri.path? (Uri.ofPath path) = some path ∧
      Uri.path? (Uri.ofPath ⟨"a b"⟩ (some ⟨"/w"⟩)) = some ⟨"/w/a b"⟩ ∧
      ¬ Uri.HasEscape "%4g".toList ∧ Uri.decode "%4g" = "%4g" := by
  have hopen : document ∈ (Workspace.history calls).openDocuments :=
    openDocuments_history ▸ List.mem_cons_self
  have hsame : other.components = document.path.components := by cbv
  have huri : Uri.ofPath other = "file:///w/100%2541/localhost%20%C3%A9/" := by cbv
  have hjoin : Path.join ⟨"/w"⟩ ⟨"a b"⟩ = ⟨"/w/a b"⟩ := by decide
  obtain ⟨_, _, hreads, hrelative, hfinds, hkeeps⟩ := Uri.names_documents
  refine ⟨⟨hopen, by decide, hsame⟩, ?_, hreads path (by decide) none,
    hjoin ▸ hrelative ⟨"/w"⟩ (by decide) ⟨"a b"⟩, not_hasEscape_text,
    hkeeps "%4g" not_hasEscape_text⟩
  rw [← huri]
  exact hfinds calls document hopen other (by decide) hsame none

end FileUriWitness

end QuickFix
