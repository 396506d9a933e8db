import DocGraft.Text.Cells

/-!
# Graphemes

What a reader sees as one character may be several: signs of no cell belong to the character before
them, a joiner ties the next character to it, and a selector asks for its picture, which takes two
cells. A line is measured and cut by graphemes.
-/

namespace DocGraft.Text

/-- The character that makes one grapheme of its neighbours. -/
def joiner : Char := '\u200d'

/-- The character that asks for the picture of the character before it. -/
def pictureSelector : Char := '\ufe0f'

/-- Characters of one cell that have a picture of two. -/
def pictured : Ranges :=
  [(0x23, 0x23), (0x2A, 0x2A), (0x30, 0x39), (0xA9, 0xA9), (0xAE, 0xAE), (0x203C, 0x203C),
    (0x2049, 0x2049), (0x2122, 0x2122), (0x2139, 0x2139), (0x2194, 0x2199), (0x21A9, 0x21AA),
    (0x2328, 0x2328), (0x23CF, 0x23CF), (0x23ED, 0x23EF), (0x23F1, 0x23F2), (0x23F8, 0x23FA),
    (0x24C2, 0x24C2), (0x25AA, 0x25AB), (0x25B6, 0x25B6), (0x25C0, 0x25C0), (0x25FB, 0x25FC),
    (0x2600, 0x2604), (0x260E, 0x260E), (0x2611, 0x2611), (0x2618, 0x2618), (0x261D, 0x261D),
    (0x2620, 0x2620), (0x2622, 0x2623), (0x2626, 0x2626), (0x262A, 0x262A), (0x262E, 0x262F),
    (0x2638, 0x263A), (0x2640, 0x2640), (0x2642, 0x2642), (0x265F, 0x2660), (0x2663, 0x2663),
    (0x2665, 0x2666), (0x2668, 0x2668), (0x267B, 0x267B), (0x267E, 0x267E), (0x2692, 0x2692),
    (0x2694, 0x2697), (0x2699, 0x2699), (0x269B, 0x269C), (0x26A0, 0x26A0), (0x26A7, 0x26A7),
    (0x26B0, 0x26B1), (0x26C8, 0x26C8), (0x26CF, 0x26CF), (0x26D1, 0x26D1), (0x26D3, 0x26D3),
    (0x26E9, 0x26E9), (0x26F0, 0x26F1), (0x26F4, 0x26F4), (0x26F7, 0x26F9), (0x2702, 0x2702),
    (0x2708, 0x2709), (0x270C, 0x270D), (0x270F, 0x270F), (0x2712, 0x2712), (0x2714, 0x2714),
    (0x2716, 0x2716), (0x271D, 0x271D), (0x2721, 0x2721), (0x2733, 0x2734), (0x2744, 0x2744),
    (0x2747, 0x2747), (0x2763, 0x2764), (0x27A1, 0x27A1), (0x2934, 0x2935), (0x2B05, 0x2B07),
    (0x1F170, 0x1F171), (0x1F17E, 0x1F17F), (0x1F321, 0x1F321), (0x1F324, 0x1F32C),
    (0x1F336, 0x1F336), (0x1F37D, 0x1F37D), (0x1F396, 0x1F397), (0x1F399, 0x1F39B),
    (0x1F39E, 0x1F39F), (0x1F3CB, 0x1F3CE), (0x1F3D4, 0x1F3DF), (0x1F3F3, 0x1F3F3),
    (0x1F3F5, 0x1F3F5), (0x1F3F7, 0x1F3F7), (0x1F43F, 0x1F43F), (0x1F441, 0x1F441),
    (0x1F4FD, 0x1F4FD), (0x1F549, 0x1F54A), (0x1F56F, 0x1F570), (0x1F573, 0x1F579),
    (0x1F587, 0x1F587), (0x1F58A, 0x1F58D), (0x1F590, 0x1F590), (0x1F5A5, 0x1F5A5),
    (0x1F5A8, 0x1F5A8), (0x1F5B1, 0x1F5B2), (0x1F5BC, 0x1F5BC), (0x1F5C2, 0x1F5C4),
    (0x1F5D1, 0x1F5D3), (0x1F5DC, 0x1F5DE), (0x1F5E1, 0x1F5E1), (0x1F5E3, 0x1F5E3),
    (0x1F5E8, 0x1F5E8), (0x1F5EF, 0x1F5EF), (0x1F5F3, 0x1F5F3), (0x1F5FA, 0x1F5FA),
    (0x1F6CB, 0x1F6CB), (0x1F6CD, 0x1F6CF), (0x1F6E0, 0x1F6E5), (0x1F6E9, 0x1F6E9),
    (0x1F6F0, 0x1F6F0), (0x1F6F3, 0x1F6F3)]

/-- The characters of a grapheme and the cells it takes. -/
structure Grapheme where
  text : Text
  cells : Nat
  deriving DecidableEq, Repr

namespace Grapheme

def ofChar (c : Char) : Grapheme := ⟨[c], cellsOf c⟩

def append (g : Grapheme) (t : Text) : Grapheme := { g with text := g.text ++ t }

/-- With a selector: two cells if the first character has a picture. -/
def select (g : Grapheme) : Grapheme :=
  ⟨g.text ++ [pictureSelector],
    if g.text.head?.any fun c => pictured.has c.toNat then 2 else g.cells⟩

end Grapheme

/-- The graphemes from here on, behind the beginning of one. -/
def graphemesFrom : Grapheme → Text → List Grapheme
  | g, [] => [g]
  | g, c :: rest =>
    if c = joiner then
      match rest with
      | [] => [g.append [c]]
      | next :: rest => graphemesFrom (g.append [c, next]) rest
    else if c = pictureSelector then graphemesFrom g.select rest
    else if cellsOf c = 0 then graphemesFrom (g.append [c]) rest
    else g :: graphemesFrom (.ofChar c) rest

/-- The graphemes of a text. A joiner at its start has nothing to join. -/
def graphemes : Text → List Grapheme
  | [] => []
  | c :: rest => graphemesFrom (.ofChar c) rest

/-- A text without the joiners at its start and what each of them would have joined. -/
def dropJoined : Text → Text
  | c :: next :: rest => if c = joiner then dropJoined rest else c :: next :: rest
  | t => t

/-- The number of cells of a text. What a joiner at its start would have joined takes none. -/
def cells (t : Text) : Nat := (graphemes (dropJoined t)).foldl (fun n g => n + g.cells) 0

end DocGraft.Text
