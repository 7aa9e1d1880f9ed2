import ProgramDeploy.Text.Class

namespace ProgramDeploy.Text

def asciiSpace : Class :=
  .ofIntervals [(0x09, 0x0d), (0x20, 0x20)]

def whiteSpace : Class :=
  .ofIntervals [(0x09, 0x0d), (0x20, 0x20), (0x85, 0x85), (0xa0, 0xa0), (0x1680, 0x1680),
    (0x2000, 0x200a), (0x2028, 0x2029), (0x202f, 0x202f), (0x205f, 0x205f), (0x3000, 0x3000)]

def blank : Class :=
  fun c => whiteSpace c || Class.ofIntervals [(0x1c, 0x1f)] c

end ProgramDeploy.Text
