import ProgramDeploy.Text.Class

/-!
Compatibility forms. A character may be a form of a small Latin letter or of several, such as a
letter in a circle or a ligature, and a mark that stands alone is a form of a space that carries
it. The forms are the characters whose full compatibility decomposition, as Unicode 13 has it,
holds nothing but small Latin letters, or starts with a space. Every other character is left as it
is: neither it nor its decomposition is a part of a word of such letters.
-/

namespace ProgramDeploy.Text

/-- The forms of one letter: the characters from the first to the last stand for the letters from
the given one on. -/
def letterForms : List (Nat × Nat × Char) :=
  [(0x00aa, 0x00aa, 'a'), (0x00ba, 0x00ba, 'o'), (0x017f, 0x017f, 's'), (0x02b0, 0x02b0, 'h'),
   (0x02b2, 0x02b2, 'j'), (0x02b3, 0x02b3, 'r'), (0x02b7, 0x02b7, 'w'), (0x02b8, 0x02b8, 'y'),
   (0x02e1, 0x02e1, 'l'), (0x02e2, 0x02e2, 's'), (0x02e3, 0x02e3, 'x'), (0x1d43, 0x1d43, 'a'),
   (0x1d47, 0x1d47, 'b'), (0x1d48, 0x1d49, 'd'), (0x1d4d, 0x1d4d, 'g'), (0x1d4f, 0x1d4f, 'k'),
   (0x1d50, 0x1d50, 'm'), (0x1d52, 0x1d52, 'o'), (0x1d56, 0x1d56, 'p'), (0x1d57, 0x1d58, 't'),
   (0x1d5b, 0x1d5b, 'v'), (0x1d62, 0x1d62, 'i'), (0x1d63, 0x1d63, 'r'), (0x1d64, 0x1d65, 'u'),
   (0x1d9c, 0x1d9c, 'c'), (0x1da0, 0x1da0, 'f'), (0x1dbb, 0x1dbb, 'z'), (0x2071, 0x2071, 'i'),
   (0x207f, 0x207f, 'n'), (0x2090, 0x2090, 'a'), (0x2091, 0x2091, 'e'), (0x2092, 0x2092, 'o'),
   (0x2093, 0x2093, 'x'), (0x2095, 0x2095, 'h'), (0x2096, 0x2099, 'k'), (0x209a, 0x209a, 'p'),
   (0x209b, 0x209c, 's'), (0x210a, 0x210a, 'g'), (0x210e, 0x210e, 'h'), (0x2113, 0x2113, 'l'),
   (0x212f, 0x212f, 'e'), (0x2134, 0x2134, 'o'), (0x2139, 0x2139, 'i'), (0x2146, 0x2147, 'd'),
   (0x2148, 0x2149, 'i'), (0x2170, 0x2170, 'i'), (0x2174, 0x2174, 'v'), (0x2179, 0x2179, 'x'),
   (0x217c, 0x217c, 'l'), (0x217d, 0x217e, 'c'), (0x217f, 0x217f, 'm'), (0x24d0, 0x24e9, 'a'),
   (0x2c7c, 0x2c7c, 'j'), (0xff41, 0xff5a, 'a'),
   (0x1d41a, 0x1d433, 'a'), (0x1d44e, 0x1d454, 'a'), (0x1d456, 0x1d467, 'i'),
   (0x1d482, 0x1d49b, 'a'), (0x1d4b6, 0x1d4b9, 'a'), (0x1d4bb, 0x1d4bb, 'f'),
   (0x1d4bd, 0x1d4c3, 'h'), (0x1d4c5, 0x1d4cf, 'p'), (0x1d4ea, 0x1d503, 'a'),
   (0x1d51e, 0x1d537, 'a'), (0x1d552, 0x1d56b, 'a'), (0x1d586, 0x1d59f, 'a'),
   (0x1d5ba, 0x1d5d3, 'a'), (0x1d5ee, 0x1d607, 'a'), (0x1d622, 0x1d63b, 'a'),
   (0x1d656, 0x1d66f, 'a'), (0x1d68a, 0x1d6a3, 'a')]

def groupForms : List (Nat × String) :=
  [(0x0133, "ij"), (0x01c9, "lj"), (0x01cc, "nj"), (0x01f3, "dz"), (0x2171, "ii"),
   (0x2172, "iii"), (0x2173, "iv"), (0x2175, "vi"), (0x2176, "vii"), (0x2177, "viii"),
   (0x2178, "ix"), (0x217a, "xi"), (0x217b, "xii"), (0x32cd, "erg"), (0x3372, "da"),
   (0x3374, "bar"), (0x3376, "pc"), (0x3377, "dm"), (0x3388, "cal"), (0x3389, "kcal"),
   (0x338e, "mg"), (0x338f, "kg"), (0x3396, "ml"), (0x3397, "dl"), (0x3398, "kl"),
   (0x3399, "fm"), (0x339a, "nm"), (0x339c, "mm"), (0x339d, "cm"), (0x339e, "km"),
   (0x33ad, "rad"), (0x33b0, "ps"), (0x33b1, "ns"), (0x33b3, "ms"), (0x33c4, "cc"),
   (0x33c5, "cd"), (0x33ca, "ha"), (0x33cc, "in"), (0x33cf, "kt"), (0x33d0, "lm"),
   (0x33d1, "ln"), (0x33d2, "log"), (0x33d3, "lx"), (0x33d4, "mb"), (0x33d5, "mil"),
   (0x33d6, "mol"), (0x33db, "sr"), (0x33ff, "gal"), (0xfb00, "ff"), (0xfb01, "fi"),
   (0xfb02, "fl"), (0xfb03, "ffi"), (0xfb04, "ffl"), (0xfb05, "st"), (0xfb06, "st")]

def spaceForms : Class :=
  .ofIntervals [(0x00a0, 0x00a0), (0x2000, 0x200a), (0x202f, 0x202f), (0x205f, 0x205f),
    (0x3000, 0x3000)]

def markForms : List (Nat × List Nat) :=
  [(0x00a8, [0x0308]), (0x00af, [0x0304]), (0x00b4, [0x0301]), (0x00b8, [0x0327]),
   (0x02d8, [0x0306]), (0x02d9, [0x0307]), (0x02da, [0x030a]), (0x02db, [0x0328]),
   (0x02dc, [0x0303]), (0x02dd, [0x030b]), (0x037a, [0x0345]), (0x0384, [0x0301]),
   (0x0385, [0x0308, 0x0301]), (0x1fbd, [0x0313]), (0x1fbf, [0x0313]), (0x1fc0, [0x0342]),
   (0x1fc1, [0x0308, 0x0342]), (0x1fcd, [0x0313, 0x0300]), (0x1fce, [0x0313, 0x0301]),
   (0x1fcf, [0x0313, 0x0342]), (0x1fdd, [0x0314, 0x0300]), (0x1fde, [0x0314, 0x0301]),
   (0x1fdf, [0x0314, 0x0342]), (0x1fed, [0x0308, 0x0300]), (0x1fee, [0x0308, 0x0301]),
   (0x1ffd, [0x0301]), (0x1ffe, [0x0314]), (0x2017, [0x0333]), (0x203e, [0x0305]),
   (0x309b, [0x3099]), (0x309c, [0x309a]), (0xfc5e, [0x064c, 0x0651]),
   (0xfc5f, [0x064d, 0x0651]), (0xfc60, [0x064e, 0x0651]), (0xfc61, [0x064f, 0x0651]),
   (0xfc62, [0x0650, 0x0651]), (0xfc63, [0x0651, 0x0670]), (0xfe49, [0x0305]),
   (0xfe4a, [0x0305]), (0xfe4b, [0x0305]), (0xfe4c, [0x0305]), (0xfe70, [0x064b]),
   (0xfe72, [0x064c]), (0xfe74, [0x064d]), (0xfe76, [0x064e]), (0xfe78, [0x064f]),
   (0xfe7a, [0x0650]), (0xfe7c, [0x0651]), (0xfe7e, [0x0652]), (0xffe3, [0x0304])]

def letters? (c : Char) : Option (List Char) :=
  match letterForms.find? fun (low, high, _) => low ≤ c.toNat && c.toNat ≤ high with
  | some (low, _, letter) => some [Char.ofNat (letter.toNat + (c.toNat - low))]
  | none => (groupForms.find? fun form => form.1 = c.toNat).map (·.2.toList)

def spaced? (c : Char) : Option (List Char) :=
  if spaceForms c then some [' ']
  else (markForms.find? fun form => form.1 = c.toNat).map fun form => ' ' :: form.2.map Char.ofNat

def decomposition (c : Char) : List Char :=
  if c.toNat < 0x80 then [c] else ((letters? c).or (spaced? c)).getD [c]

def decomposed (cs : List Char) : List Char :=
  cs.flatMap decomposition

end ProgramDeploy.Text
