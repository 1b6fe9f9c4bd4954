import FormLogic.Text.CaseTable

/-!
# Case folding

Two characters are the same up to case when their simple case foldings agree.  The table maps
every character that folds to another one; `orbit` is the set of all characters with the same
folding, so that `ſ`, `s` and `S` are one orbit.
-/

namespace FormLogic.Pattern.Folding

open Text (CaseRow CharSet)

/-- The characters that fold to another character, as rows. -/
def rows : List CaseRow := CaseRow.ofWords <| CharSet.words <|
  "41 5A 1 20 B5 B5 1 307 C0 D6 1 20 D8 DE 1 20 100 12E 2 1 132 136 2 1 139 147 2 1 14A 176 " ++
  "2 1 178 178 1 -79 179 17D 2 1 17F 17F 1 -10C 181 181 1 D2 182 184 2 1 186 186 1 CE 187 " ++
  "187 1 1 189 18A 1 CD 18B 18B 1 1 18E 18E 1 4F 18F 18F 1 CA 190 190 1 CB 191 191 1 1 193 " ++
  "193 1 CD 194 194 1 CF 196 196 1 D3 197 197 1 D1 198 198 1 1 19C 19C 1 D3 19D 19D 1 D5 " ++
  "19F 19F 1 D6 1A0 1A4 2 1 1A6 1A6 1 DA 1A7 1A7 1 1 1A9 1A9 1 DA 1AC 1AC 1 1 1AE 1AE 1 DA " ++
  "1AF 1AF 1 1 1B1 1B2 1 D9 1B3 1B5 2 1 1B7 1B7 1 DB 1B8 1B8 1 1 1BC 1BC 1 1 1C4 1C4 1 2 " ++
  "1C5 1C5 1 1 1C7 1C7 1 2 1C8 1C8 1 1 1CA 1CA 1 2 1CB 1DB 2 1 1DE 1EE 2 1 1F1 1F1 1 2 1F2 " ++
  "1F4 2 1 1F6 1F6 1 -61 1F7 1F7 1 -38 1F8 21E 2 1 220 220 1 -82 222 232 2 1 23A 23A 1 2A2B " ++
  "23B 23B 1 1 23D 23D 1 -A3 23E 23E 1 2A28 241 241 1 1 243 243 1 -C3 244 244 1 45 245 245 " ++
  "1 47 246 24E 2 1 345 345 1 74 370 372 2 1 376 376 1 1 37F 37F 1 74 386 386 1 26 388 38A " ++
  "1 25 38C 38C 1 40 38E 38F 1 3F 391 3A1 1 20 3A3 3AB 1 20 3C2 3C2 1 1 3CF 3CF 1 8 3D0 3D0 " ++
  "1 -1E 3D1 3D1 1 -19 3D5 3D5 1 -F 3D6 3D6 1 -16 3D8 3EE 2 1 3F0 3F0 1 -36 3F1 3F1 1 -30 " ++
  "3F4 3F4 1 -3C 3F5 3F5 1 -40 3F7 3F7 1 1 3F9 3F9 1 -7 3FA 3FA 1 1 3FD 3FF 1 -82 400 40F 1 " ++
  "50 410 42F 1 20 460 480 2 1 48A 4BE 2 1 4C0 4C0 1 F 4C1 4CD 2 1 4D0 52E 2 1 531 556 1 30 " ++
  "10A0 10C5 1 1C60 10C7 10C7 1 1C60 10CD 10CD 1 1C60 13F8 13FD 1 -8 1C80 1C80 1 -184E 1C81 " ++
  "1C81 1 -184D 1C82 1C82 1 -1844 1C83 1C84 1 -1842 1C85 1C85 1 -1843 1C86 1C86 1 -183C " ++
  "1C87 1C87 1 -1824 1C88 1C88 1 89C3 1C90 1CBA 1 -BC0 1CBD 1CBF 1 -BC0 1E00 1E94 2 1 1E9B " ++
  "1E9B 1 -3A 1E9E 1E9E 1 -1DBF 1EA0 1EFE 2 1 1F08 1F0F 1 -8 1F18 1F1D 1 -8 1F28 1F2F 1 -8 " ++
  "1F38 1F3F 1 -8 1F48 1F4D 1 -8 1F59 1F5F 2 -8 1F68 1F6F 1 -8 1F88 1F8F 1 -8 1F98 1F9F 1 " ++
  "-8 1FA8 1FAF 1 -8 1FB8 1FB9 1 -8 1FBA 1FBB 1 -4A 1FBC 1FBC 1 -9 1FBE 1FBE 1 -1C05 1FC8 " ++
  "1FCB 1 -56 1FCC 1FCC 1 -9 1FD8 1FD9 1 -8 1FDA 1FDB 1 -64 1FE8 1FE9 1 -8 1FEA 1FEB 1 -70 " ++
  "1FEC 1FEC 1 -7 1FF8 1FF9 1 -80 1FFA 1FFB 1 -7E 1FFC 1FFC 1 -9 2126 2126 1 -1D5D 212A " ++
  "212A 1 -20BF 212B 212B 1 -2046 2132 2132 1 1C 2160 216F 1 10 2183 2183 1 1 24B6 24CF 1 " ++
  "1A 2C00 2C2F 1 30 2C60 2C60 1 1 2C62 2C62 1 -29F7 2C63 2C63 1 -EE6 2C64 2C64 1 -29E7 " ++
  "2C67 2C6B 2 1 2C6D 2C6D 1 -2A1C 2C6E 2C6E 1 -29FD 2C6F 2C6F 1 -2A1F 2C70 2C70 1 -2A1E " ++
  "2C72 2C72 1 1 2C75 2C75 1 1 2C7E 2C7F 1 -2A3F 2C80 2CE2 2 1 2CEB 2CED 2 1 2CF2 2CF2 1 1 " ++
  "A640 A66C 2 1 A680 A69A 2 1 A722 A72E 2 1 A732 A76E 2 1 A779 A77B 2 1 A77D A77D 1 -8A04 " ++
  "A77E A786 2 1 A78B A78B 1 1 A78D A78D 1 -A528 A790 A792 2 1 A796 A7A8 2 1 A7AA A7AA 1 " ++
  "-A544 A7AB A7AB 1 -A54F A7AC A7AC 1 -A54B A7AD A7AD 1 -A541 A7AE A7AE 1 -A544 A7B0 A7B0 " ++
  "1 -A512 A7B1 A7B1 1 -A52A A7B2 A7B2 1 -A515 A7B3 A7B3 1 3A0 A7B4 A7C2 2 1 A7C4 A7C4 1 " ++
  "-30 A7C5 A7C5 1 -A543 A7C6 A7C6 1 -8A38 A7C7 A7C9 2 1 A7D0 A7D0 1 1 A7D6 A7D8 2 1 A7F5 " ++
  "A7F5 1 1 AB70 ABBF 1 -97D0 FF21 FF3A 1 20 10400 10427 1 28 104B0 104D3 1 28 10570 1057A " ++
  "1 27 1057C 1058A 1 27 1058C 10592 1 27 10594 10595 1 27 10C80 10CB2 1 40 118A0 118BF 1 " ++
  "20 16E40 16E5F 1 20 1E900 1E921 1 22"

/-- The simple case folding of a code point. -/
def fold (n : Nat) : Nat := (CaseRow.lookup? rows n).getD n

/-- The code points, other than itself, that fold to a given one. -/
def sources (n : Nat) : List Nat :=
  rows.filterMap fun r =>
    let source := (n : Int) - r.shift
    if (r.first : Int) ≤ source ∧ source ≤ r.last ∧ (source.toNat - r.first) % r.step = 0 then
      some source.toNat
    else none

/-- All code points that are the same as a given one up to case, itself among them. -/
def orbit (n : Nat) : List Nat := n :: fold n :: sources (fold n)

/-- The same for the ASCII letters alone. -/
def asciiOrbit (n : Nat) : List Nat :=
  if 0x41 ≤ n ∧ n ≤ 0x5A then [n, n + 32]
  else if 0x61 ≤ n ∧ n ≤ 0x7A then [n, n - 32]
  else [n]

end FormLogic.Pattern.Folding
