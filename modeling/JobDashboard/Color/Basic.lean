import JobDashboard.Json.Wire

/-!
# Colors

Colors as six hexadecimal digits, and the palette that charts draw from.
-/

namespace JobDashboard

/-- A color as it is shown, such as `#FF0000`. -/
structure Color where
  hex : String
deriving DecidableEq, Inhabited

namespace Color

def black : Color := ⟨"#000000"⟩

/-- The colors for chart series, in the order they are handed out. -/
def palette : List Color := [
  ⟨"#FF0000"⟩, ⟨"#7F0000"⟩, ⟨"#FFA280"⟩, ⟨"#806C60"⟩, ⟨"#FF8800"⟩, ⟨"#FFE1BF"⟩, ⟨"#996600"⟩,
  ⟨"#FFCC00"⟩, ⟨"#66644D"⟩, ⟨"#4C4700"⟩, ⟨"#EEFF00"⟩, ⟨"#FBFFBF"⟩, ⟨"#66FF00"⟩, ⟨"#7DB359"⟩,
  ⟨"#8FBFA3"⟩, ⟨"#005930"⟩, ⟨"#00FFAA"⟩, ⟨"#00EEFF"⟩, ⟨"#003C40"⟩, ⟨"#00AAFF"⟩, ⟨"#738C99"⟩,
  ⟨"#004480"⟩, ⟨"#0066FF"⟩, ⟨"#0000FF"⟩, ⟨"#0000BF"⟩, ⟨"#1A1966"⟩, ⟨"#C8BFFF"⟩, ⟨"#9559B3"⟩,
  ⟨"#CC00FF"⟩, ⟨"#590047"⟩, ⟨"#FF00AA"⟩, ⟨"#FFBFEA"⟩, ⟨"#A65369"⟩, ⟨"#FF4059"⟩, ⟨"#400009"⟩]

def write (c : Color) : Json.Wire := .text c.hex

end Color

end JobDashboard
