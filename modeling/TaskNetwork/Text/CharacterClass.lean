import TaskNetwork.Text.GeneralCategory

/-!
# Classes of characters

Which characters a reader cannot see and which attach to the character before them. Both follow from
the general category, apart from a few characters.
-/

namespace TaskNetwork

namespace Text

/-- Control and format characters, separators other than the blank, and code points that are private
or not assigned. -/
def invisibleCategories : List GeneralCategory :=
  [⟨'C', 'c'⟩, ⟨'C', 'f'⟩, ⟨'C', 'n'⟩, ⟨'C', 'o'⟩, ⟨'C', 's'⟩, ⟨'Z', 'l'⟩, ⟨'Z', 'p'⟩, ⟨'Z', 's'⟩]

/-- Letters that only fill the place of one. -/
def fillers : List Char := ['\u115f', '\u1160', '\u3164', '\uffa0']

def isInvisible (c : Char) : Bool :=
  c != ' ' && (invisibleCategories.contains (.ofChar c) || fillers.contains c)

/-- Characters that attach without being nonspacing or enclosing marks, by ranges of code points. -/
def otherExtending : List (Nat × Nat) := [
  (0x9be, 0x9be), (0x9d7, 0x9d7), (0xb3e, 0xb3e), (0xb57, 0xb57), (0xbbe, 0xbbe), (0xbd7,
  0xbd7), (0xcc0, 0xcc0), (0xcc2, 0xcc2), (0xcc7, 0xcc8), (0xcca, 0xccb), (0xcd5, 0xcd6),
  (0xd3e, 0xd3e), (0xd57, 0xd57), (0xdcf, 0xdcf), (0xddf, 0xddf), (0x1715, 0x1715), (0x1734,
  0x1734), (0x1b35, 0x1b35), (0x1b3b, 0x1b3b), (0x1b3d, 0x1b3d), (0x1b43, 0x1b44), (0x1baa,
  0x1baa), (0x1bf2, 0x1bf3), (0x200c, 0x200c), (0x302e, 0x302f), (0xa953, 0xa953), (0xa9c0,
  0xa9c0), (0x111c0, 0x111c0), (0x11235, 0x11235), (0x1133e, 0x1133e), (0x1134d, 0x1134d),
  (0x11357, 0x11357), (0x113b8, 0x113b8), (0x113c2, 0x113c2), (0x113c5, 0x113c5), (0x113c7,
  0x113c9), (0x113cf, 0x113cf), (0x114b0, 0x114b0), (0x114bd, 0x114bd), (0x115af, 0x115af),
  (0x116b6, 0x116b6), (0x11930, 0x11930), (0x1193d, 0x1193d), (0x11f41, 0x11f41), (0x16ff0,
  0x16ff1), (0x1d165, 0x1d166), (0x1d16d, 0x1d172), (0xe0020, 0xe007f)]

def isExtending (c : Char) : Bool :=
  let category := GeneralCategory.ofChar c
  category = ⟨'M', 'n'⟩ || category = ⟨'M', 'e'⟩ ||
    otherExtending.any fun (first, last) => first ≤ c.toNat && c.toNat ≤ last

/-- Is this a character of a word? -/
def isWord (c : Char) : Bool :=
  let category := GeneralCategory.ofChar c
  category.group = 'L' || category.group = 'M' ||
    [⟨'N', 'd'⟩, ⟨'N', 'l'⟩, ⟨'P', 'c'⟩].contains category ||
    enclosedLetters.any fun (first, last) => first ≤ c.toNat && c.toNat ≤ last
where
  /-- Letters inside a shape, and the joiners. -/
  enclosedLetters : List (Nat × Nat) :=
    [(0x200c, 0x200d), (0x24b6, 0x24e9), (0x1f130, 0x1f149), (0x1f150, 0x1f169), (0x1f170, 0x1f189)]

/-- Is this a blank of any kind, or the end of a line? -/
def isSpace (c : Char) : Bool :=
  (GeneralCategory.ofChar c).group = 'Z' || ('\t' ≤ c && c ≤ '\r') || c = '\u0085'

end Text

end TaskNetwork
