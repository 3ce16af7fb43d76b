import BrowserControl.Text.CodePoint

/-!
# Upper Case

Full upper-casing of text after Unicode's character database.  Most characters with an upper case map to
one character; these mappings come in runs over which the distance is constant.  Some map to two or three
characters (`ß` to `SS`), whatever stands around them.  All others, lone surrogates among them, stay
as they are.
-/

namespace BrowserControl.Text

/-- Every `step`-th character from `first` to `last` has its upper case `shift` places away. -/
structure CaseRun where
  first : Nat
  last : Nat
  step : Nat
  shift : Int

def CaseRun.covers (run : CaseRun) (number : Nat) : Bool :=
  run.first ≤ number && number ≤ run.last && (number - run.first) % run.step == 0

/-- The characters whose upper case is one character. -/
def caseRuns : List CaseRun := [
  ⟨0x61, 0x7A, 1, -32⟩, ⟨0xB5, 0xB5, 1, 743⟩, ⟨0xE0, 0xF6, 1, -32⟩, ⟨0xF8, 0xFE, 1, -32⟩,
   ⟨0xFF, 0xFF, 1, 121⟩, ⟨0x101, 0x12F, 2, -1⟩, ⟨0x131, 0x131, 1, -232⟩, ⟨0x133, 0x137, 2, -1⟩,
   ⟨0x13A, 0x148, 2, -1⟩, ⟨0x14B, 0x177, 2, -1⟩, ⟨0x17A, 0x17E, 2, -1⟩, ⟨0x17F, 0x17F, 1, -300⟩,
   ⟨0x180, 0x180, 1, 195⟩, ⟨0x183, 0x185, 2, -1⟩, ⟨0x188, 0x188, 1, -1⟩, ⟨0x18C, 0x18C, 1, -1⟩,
   ⟨0x192, 0x192, 1, -1⟩, ⟨0x195, 0x195, 1, 97⟩, ⟨0x199, 0x199, 1, -1⟩, ⟨0x19A, 0x19A, 1, 163⟩,
   ⟨0x19E, 0x19E, 1, 130⟩, ⟨0x1A1, 0x1A5, 2, -1⟩, ⟨0x1A8, 0x1A8, 1, -1⟩, ⟨0x1AD, 0x1AD, 1, -1⟩,
   ⟨0x1B0, 0x1B0, 1, -1⟩, ⟨0x1B4, 0x1B6, 2, -1⟩, ⟨0x1B9, 0x1B9, 1, -1⟩, ⟨0x1BD, 0x1BD, 1, -1⟩,
   ⟨0x1BF, 0x1BF, 1, 56⟩, ⟨0x1C5, 0x1C5, 1, -1⟩, ⟨0x1C6, 0x1C6, 1, -2⟩, ⟨0x1C8, 0x1C8, 1, -1⟩,
   ⟨0x1C9, 0x1C9, 1, -2⟩, ⟨0x1CB, 0x1CB, 1, -1⟩, ⟨0x1CC, 0x1CC, 1, -2⟩, ⟨0x1CE, 0x1DC, 2, -1⟩,
   ⟨0x1DD, 0x1DD, 1, -79⟩, ⟨0x1DF, 0x1EF, 2, -1⟩, ⟨0x1F2, 0x1F2, 1, -1⟩, ⟨0x1F3, 0x1F3, 1, -2⟩,
   ⟨0x1F5, 0x1F5, 1, -1⟩, ⟨0x1F9, 0x21F, 2, -1⟩, ⟨0x223, 0x233, 2, -1⟩, ⟨0x23C, 0x23C, 1, -1⟩,
   ⟨0x23F, 0x240, 1, 10815⟩, ⟨0x242, 0x242, 1, -1⟩, ⟨0x247, 0x24F, 2, -1⟩,
   ⟨0x250, 0x250, 1, 10783⟩, ⟨0x251, 0x251, 1, 10780⟩, ⟨0x252, 0x252, 1, 10782⟩,
   ⟨0x253, 0x253, 1, -210⟩, ⟨0x254, 0x254, 1, -206⟩, ⟨0x256, 0x257, 1, -205⟩,
   ⟨0x259, 0x259, 1, -202⟩, ⟨0x25B, 0x25B, 1, -203⟩, ⟨0x25C, 0x25C, 1, 42319⟩,
   ⟨0x260, 0x260, 1, -205⟩, ⟨0x261, 0x261, 1, 42315⟩, ⟨0x263, 0x263, 1, -207⟩,
   ⟨0x265, 0x265, 1, 42280⟩, ⟨0x266, 0x266, 1, 42308⟩, ⟨0x268, 0x268, 1, -209⟩,
   ⟨0x269, 0x269, 1, -211⟩, ⟨0x26A, 0x26A, 1, 42308⟩, ⟨0x26B, 0x26B, 1, 10743⟩,
   ⟨0x26C, 0x26C, 1, 42305⟩, ⟨0x26F, 0x26F, 1, -211⟩, ⟨0x271, 0x271, 1, 10749⟩,
   ⟨0x272, 0x272, 1, -213⟩, ⟨0x275, 0x275, 1, -214⟩, ⟨0x27D, 0x27D, 1, 10727⟩,
   ⟨0x280, 0x280, 1, -218⟩, ⟨0x282, 0x282, 1, 42307⟩, ⟨0x283, 0x283, 1, -218⟩,
   ⟨0x287, 0x287, 1, 42282⟩, ⟨0x288, 0x288, 1, -218⟩, ⟨0x289, 0x289, 1, -69⟩,
   ⟨0x28A, 0x28B, 1, -217⟩, ⟨0x28C, 0x28C, 1, -71⟩, ⟨0x292, 0x292, 1, -219⟩,
   ⟨0x29D, 0x29D, 1, 42261⟩, ⟨0x29E, 0x29E, 1, 42258⟩, ⟨0x345, 0x345, 1, 84⟩,
   ⟨0x371, 0x373, 2, -1⟩, ⟨0x377, 0x377, 1, -1⟩, ⟨0x37B, 0x37D, 1, 130⟩, ⟨0x3AC, 0x3AC, 1, -38⟩,
   ⟨0x3AD, 0x3AF, 1, -37⟩, ⟨0x3B1, 0x3C1, 1, -32⟩, ⟨0x3C2, 0x3C2, 1, -31⟩,
   ⟨0x3C3, 0x3CB, 1, -32⟩, ⟨0x3CC, 0x3CC, 1, -64⟩, ⟨0x3CD, 0x3CE, 1, -63⟩,
   ⟨0x3D0, 0x3D0, 1, -62⟩, ⟨0x3D1, 0x3D1, 1, -57⟩, ⟨0x3D5, 0x3D5, 1, -47⟩,
   ⟨0x3D6, 0x3D6, 1, -54⟩, ⟨0x3D7, 0x3D7, 1, -8⟩, ⟨0x3D9, 0x3EF, 2, -1⟩, ⟨0x3F0, 0x3F0, 1, -86⟩,
   ⟨0x3F1, 0x3F1, 1, -80⟩, ⟨0x3F2, 0x3F2, 1, 7⟩, ⟨0x3F3, 0x3F3, 1, -116⟩, ⟨0x3F5, 0x3F5, 1, -96⟩,
   ⟨0x3F8, 0x3F8, 1, -1⟩, ⟨0x3FB, 0x3FB, 1, -1⟩, ⟨0x430, 0x44F, 1, -32⟩, ⟨0x450, 0x45F, 1, -80⟩,
   ⟨0x461, 0x481, 2, -1⟩, ⟨0x48B, 0x4BF, 2, -1⟩, ⟨0x4C2, 0x4CE, 2, -1⟩, ⟨0x4CF, 0x4CF, 1, -15⟩,
   ⟨0x4D1, 0x52F, 2, -1⟩, ⟨0x561, 0x586, 1, -48⟩, ⟨0x10D0, 0x10FA, 1, 3008⟩,
   ⟨0x10FD, 0x10FF, 1, 3008⟩, ⟨0x13F8, 0x13FD, 1, -8⟩, ⟨0x1C80, 0x1C80, 1, -6254⟩,
   ⟨0x1C81, 0x1C81, 1, -6253⟩, ⟨0x1C82, 0x1C82, 1, -6244⟩, ⟨0x1C83, 0x1C84, 1, -6242⟩,
   ⟨0x1C85, 0x1C85, 1, -6243⟩, ⟨0x1C86, 0x1C86, 1, -6236⟩, ⟨0x1C87, 0x1C87, 1, -6181⟩,
   ⟨0x1C88, 0x1C88, 1, 35266⟩, ⟨0x1D79, 0x1D79, 1, 35332⟩, ⟨0x1D7D, 0x1D7D, 1, 3814⟩,
   ⟨0x1D8E, 0x1D8E, 1, 35384⟩, ⟨0x1E01, 0x1E95, 2, -1⟩, ⟨0x1E9B, 0x1E9B, 1, -59⟩,
   ⟨0x1EA1, 0x1EFF, 2, -1⟩, ⟨0x1F00, 0x1F07, 1, 8⟩, ⟨0x1F10, 0x1F15, 1, 8⟩,
   ⟨0x1F20, 0x1F27, 1, 8⟩, ⟨0x1F30, 0x1F37, 1, 8⟩, ⟨0x1F40, 0x1F45, 1, 8⟩,
   ⟨0x1F51, 0x1F57, 2, 8⟩, ⟨0x1F60, 0x1F67, 1, 8⟩, ⟨0x1F70, 0x1F71, 1, 74⟩,
   ⟨0x1F72, 0x1F75, 1, 86⟩, ⟨0x1F76, 0x1F77, 1, 100⟩, ⟨0x1F78, 0x1F79, 1, 128⟩,
   ⟨0x1F7A, 0x1F7B, 1, 112⟩, ⟨0x1F7C, 0x1F7D, 1, 126⟩, ⟨0x1FB0, 0x1FB1, 1, 8⟩,
   ⟨0x1FBE, 0x1FBE, 1, -7205⟩, ⟨0x1FD0, 0x1FD1, 1, 8⟩, ⟨0x1FE0, 0x1FE1, 1, 8⟩,
   ⟨0x1FE5, 0x1FE5, 1, 7⟩, ⟨0x214E, 0x214E, 1, -28⟩, ⟨0x2170, 0x217F, 1, -16⟩,
   ⟨0x2184, 0x2184, 1, -1⟩, ⟨0x24D0, 0x24E9, 1, -26⟩, ⟨0x2C30, 0x2C5F, 1, -48⟩,
   ⟨0x2C61, 0x2C61, 1, -1⟩, ⟨0x2C65, 0x2C65, 1, -10795⟩, ⟨0x2C66, 0x2C66, 1, -10792⟩,
   ⟨0x2C68, 0x2C6C, 2, -1⟩, ⟨0x2C73, 0x2C73, 1, -1⟩, ⟨0x2C76, 0x2C76, 1, -1⟩,
   ⟨0x2C81, 0x2CE3, 2, -1⟩, ⟨0x2CEC, 0x2CEE, 2, -1⟩, ⟨0x2CF3, 0x2CF3, 1, -1⟩,
   ⟨0x2D00, 0x2D25, 1, -7264⟩, ⟨0x2D27, 0x2D27, 1, -7264⟩, ⟨0x2D2D, 0x2D2D, 1, -7264⟩,
   ⟨0xA641, 0xA66D, 2, -1⟩, ⟨0xA681, 0xA69B, 2, -1⟩, ⟨0xA723, 0xA72F, 2, -1⟩,
   ⟨0xA733, 0xA76F, 2, -1⟩, ⟨0xA77A, 0xA77C, 2, -1⟩, ⟨0xA77F, 0xA787, 2, -1⟩,
   ⟨0xA78C, 0xA78C, 1, -1⟩, ⟨0xA791, 0xA793, 2, -1⟩, ⟨0xA794, 0xA794, 1, 48⟩,
   ⟨0xA797, 0xA7A9, 2, -1⟩, ⟨0xA7B5, 0xA7C3, 2, -1⟩, ⟨0xA7C8, 0xA7CA, 2, -1⟩,
   ⟨0xA7D1, 0xA7D1, 1, -1⟩, ⟨0xA7D7, 0xA7D9, 2, -1⟩, ⟨0xA7F6, 0xA7F6, 1, -1⟩,
   ⟨0xAB53, 0xAB53, 1, -928⟩, ⟨0xAB70, 0xABBF, 1, -38864⟩, ⟨0xFF41, 0xFF5A, 1, -32⟩,
   ⟨0x10428, 0x1044F, 1, -40⟩, ⟨0x104D8, 0x104FB, 1, -40⟩, ⟨0x10597, 0x105A1, 1, -39⟩,
   ⟨0x105A3, 0x105B1, 1, -39⟩, ⟨0x105B3, 0x105B9, 1, -39⟩, ⟨0x105BB, 0x105BC, 1, -39⟩,
   ⟨0x10CC0, 0x10CF2, 1, -64⟩, ⟨0x118C0, 0x118DF, 1, -32⟩, ⟨0x16E60, 0x16E7F, 1, -32⟩,
   ⟨0x1E922, 0x1E943, 1, -34⟩]

/-- The characters whose upper case takes two or three characters. -/
def caseExpansions : List (Char × List Char) := [
  ('\u00df', ['S', 'S']), ('\u0149', ['\u02bc', 'N']), ('\u01f0', ['J', '\u030c']),
   ('\u0390', ['\u0399', '\u0308', '\u0301']), ('\u03b0', ['\u03a5', '\u0308', '\u0301']),
   ('\u0587', ['\u0535', '\u0552']), ('\u1e96', ['H', '\u0331']), ('\u1e97', ['T', '\u0308']),
   ('\u1e98', ['W', '\u030a']), ('\u1e99', ['Y', '\u030a']), ('\u1e9a', ['A', '\u02be']),
   ('\u1f50', ['\u03a5', '\u0313']), ('\u1f52', ['\u03a5', '\u0313', '\u0300']),
   ('\u1f54', ['\u03a5', '\u0313', '\u0301']), ('\u1f56', ['\u03a5', '\u0313', '\u0342']),
   ('\u1f80', ['\u1f08', '\u0399']), ('\u1f81', ['\u1f09', '\u0399']),
   ('\u1f82', ['\u1f0a', '\u0399']), ('\u1f83', ['\u1f0b', '\u0399']),
   ('\u1f84', ['\u1f0c', '\u0399']), ('\u1f85', ['\u1f0d', '\u0399']),
   ('\u1f86', ['\u1f0e', '\u0399']), ('\u1f87', ['\u1f0f', '\u0399']),
   ('\u1f88', ['\u1f08', '\u0399']), ('\u1f89', ['\u1f09', '\u0399']),
   ('\u1f8a', ['\u1f0a', '\u0399']), ('\u1f8b', ['\u1f0b', '\u0399']),
   ('\u1f8c', ['\u1f0c', '\u0399']), ('\u1f8d', ['\u1f0d', '\u0399']),
   ('\u1f8e', ['\u1f0e', '\u0399']), ('\u1f8f', ['\u1f0f', '\u0399']),
   ('\u1f90', ['\u1f28', '\u0399']), ('\u1f91', ['\u1f29', '\u0399']),
   ('\u1f92', ['\u1f2a', '\u0399']), ('\u1f93', ['\u1f2b', '\u0399']),
   ('\u1f94', ['\u1f2c', '\u0399']), ('\u1f95', ['\u1f2d', '\u0399']),
   ('\u1f96', ['\u1f2e', '\u0399']), ('\u1f97', ['\u1f2f', '\u0399']),
   ('\u1f98', ['\u1f28', '\u0399']), ('\u1f99', ['\u1f29', '\u0399']),
   ('\u1f9a', ['\u1f2a', '\u0399']), ('\u1f9b', ['\u1f2b', '\u0399']),
   ('\u1f9c', ['\u1f2c', '\u0399']), ('\u1f9d', ['\u1f2d', '\u0399']),
   ('\u1f9e', ['\u1f2e', '\u0399']), ('\u1f9f', ['\u1f2f', '\u0399']),
   ('\u1fa0', ['\u1f68', '\u0399']), ('\u1fa1', ['\u1f69', '\u0399']),
   ('\u1fa2', ['\u1f6a', '\u0399']), ('\u1fa3', ['\u1f6b', '\u0399']),
   ('\u1fa4', ['\u1f6c', '\u0399']), ('\u1fa5', ['\u1f6d', '\u0399']),
   ('\u1fa6', ['\u1f6e', '\u0399']), ('\u1fa7', ['\u1f6f', '\u0399']),
   ('\u1fa8', ['\u1f68', '\u0399']), ('\u1fa9', ['\u1f69', '\u0399']),
   ('\u1faa', ['\u1f6a', '\u0399']), ('\u1fab', ['\u1f6b', '\u0399']),
   ('\u1fac', ['\u1f6c', '\u0399']), ('\u1fad', ['\u1f6d', '\u0399']),
   ('\u1fae', ['\u1f6e', '\u0399']), ('\u1faf', ['\u1f6f', '\u0399']),
   ('\u1fb2', ['\u1fba', '\u0399']), ('\u1fb3', ['\u0391', '\u0399']),
   ('\u1fb4', ['\u0386', '\u0399']), ('\u1fb6', ['\u0391', '\u0342']),
   ('\u1fb7', ['\u0391', '\u0342', '\u0399']), ('\u1fbc', ['\u0391', '\u0399']),
   ('\u1fc2', ['\u1fca', '\u0399']), ('\u1fc3', ['\u0397', '\u0399']),
   ('\u1fc4', ['\u0389', '\u0399']), ('\u1fc6', ['\u0397', '\u0342']),
   ('\u1fc7', ['\u0397', '\u0342', '\u0399']), ('\u1fcc', ['\u0397', '\u0399']),
   ('\u1fd2', ['\u0399', '\u0308', '\u0300']), ('\u1fd3', ['\u0399', '\u0308', '\u0301']),
   ('\u1fd6', ['\u0399', '\u0342']), ('\u1fd7', ['\u0399', '\u0308', '\u0342']),
   ('\u1fe2', ['\u03a5', '\u0308', '\u0300']), ('\u1fe3', ['\u03a5', '\u0308', '\u0301']),
   ('\u1fe4', ['\u03a1', '\u0313']), ('\u1fe6', ['\u03a5', '\u0342']),
   ('\u1fe7', ['\u03a5', '\u0308', '\u0342']), ('\u1ff2', ['\u1ffa', '\u0399']),
   ('\u1ff3', ['\u03a9', '\u0399']), ('\u1ff4', ['\u038f', '\u0399']),
   ('\u1ff6', ['\u03a9', '\u0342']), ('\u1ff7', ['\u03a9', '\u0342', '\u0399']),
   ('\u1ffc', ['\u03a9', '\u0399']), ('\ufb00', ['F', 'F']), ('\ufb01', ['F', 'I']),
   ('\ufb02', ['F', 'L']), ('\ufb03', ['F', 'F', 'I']), ('\ufb04', ['F', 'F', 'L']),
   ('\ufb05', ['S', 'T']), ('\ufb06', ['S', 'T']), ('\ufb13', ['\u0544', '\u0546']),
   ('\ufb14', ['\u0544', '\u0535']), ('\ufb15', ['\u0544', '\u053b']),
   ('\ufb16', ['\u054e', '\u0546']), ('\ufb17', ['\u0544', '\u053d'])]

/-- The upper case of one character, as the characters that replace it. -/
def upperCharacter (character : Char) : List Char :=
  match caseRuns.find? fun run ↦ run.covers character.toNat with
  | some run => [Char.ofNat (character.toNat + run.shift).toNat]
  | none => (caseExpansions.lookup character).getD [character]

def upperCase (text : String) : String :=
  String.ofList (text.toList.flatMap upperCharacter)

/-- The upper case of one code point; a lone surrogate has none of its own. -/
def CodePoint.upper : CodePoint → List CodePoint
  | .scalar character => (upperCharacter character).map .scalar
  | .surrogate offset => [.surrogate offset]

def upperCodePoints (text : List CodePoint) : List CodePoint :=
  text.flatMap CodePoint.upper

end BrowserControl.Text
