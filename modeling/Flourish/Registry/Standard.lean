/-
This file holds the renderables, colors and shield styles that come with the library.
-/

import Flourish.Registry.Load

namespace Flourish.Registry

namespace Standard

open Load (upperLetters lowerLetters digitLetters)

/-- Glyphs that stand one for one for keys. -/
def glyphs (keys values : Text) : Table Document :=
  List.zipWith (fun key value => ([key], .text [value])) keys values

/-- A style for letters, and for digits if it has glyphs for them. -/
def letterStyle (id : Text) (aliases : List Text)
    (category description upper lower digits : Text) : Entry StyleBody :=
  ⟨id, aliases, ContextKind.all, .text description,
    ⟨.text category, glyphs upperLetters upper, glyphs lowerLetters lower,
      glyphs digitLetters digits, []⟩⟩

def textFrame (id otherName description before after : Text) : Entry FrameBody :=
  ⟨id, [otherName], [.block, .inline], .text description, ⟨before, after⟩⟩

def letterBadge (id otherName description keys values : Text) : Entry BadgeBody :=
  ⟨id, [otherName], [.block, .inline], .text description, ⟨List.zip keys values⟩⟩

def mark (id otherName description text : Text) : Entry SeparatorBody :=
  ⟨id, [otherName], [.frameChrome, .inline], .text description, ⟨text⟩⟩

def styles : List (Entry StyleBody) :=
  [letterStyle "mathbold" ["mb", "bold"] "bold" "Mathematical bold serif"
      "𝐀𝐁𝐂𝐃𝐄𝐅𝐆𝐇𝐈𝐉𝐊𝐋𝐌𝐍𝐎𝐏𝐐𝐑𝐒𝐓𝐔𝐕𝐖𝐗𝐘𝐙"
      "𝐚𝐛𝐜𝐝𝐞𝐟𝐠𝐡𝐢𝐣𝐤𝐥𝐦𝐧𝐨𝐩𝐪𝐫𝐬𝐭𝐮𝐯𝐰𝐱𝐲𝐳" "𝟎𝟏𝟐𝟑𝟒𝟓𝟔𝟕𝟖𝟗",
    letterStyle "italic" ["it"] "italic" "Mathematical italic serif"
      "𝐴𝐵𝐶𝐷𝐸𝐹𝐺𝐻𝐼𝐽𝐾𝐿𝑀𝑁𝑂𝑃𝑄𝑅𝑆𝑇𝑈𝑉𝑊𝑋𝑌𝑍"
      "𝑎𝑏𝑐𝑑𝑒𝑓𝑔ℎ𝑖𝑗𝑘𝑙𝑚𝑛𝑜𝑝𝑞𝑟𝑠𝑡𝑢𝑣𝑤𝑥𝑦𝑧" "",
    letterStyle "bold-italic" ["bi"] "italic" "Mathematical bold italic serif"
      "𝑨𝑩𝑪𝑫𝑬𝑭𝑮𝑯𝑰𝑱𝑲𝑳𝑴𝑵𝑶𝑷𝑸𝑹𝑺𝑻𝑼𝑽𝑾𝑿𝒀𝒁"
      "𝒂𝒃𝒄𝒅𝒆𝒇𝒈𝒉𝒊𝒋𝒌𝒍𝒎𝒏𝒐𝒑𝒒𝒓𝒔𝒕𝒖𝒗𝒘𝒙𝒚𝒛" "",
    letterStyle "sans-serif" ["ss"] "sans" "Mathematical sans-serif"
      "𝖠𝖡𝖢𝖣𝖤𝖥𝖦𝖧𝖨𝖩𝖪𝖫𝖬𝖭𝖮𝖯𝖰𝖱𝖲𝖳𝖴𝖵𝖶𝖷𝖸𝖹"
      "𝖺𝖻𝖼𝖽𝖾𝖿𝗀𝗁𝗂𝗃𝗄𝗅𝗆𝗇𝗈𝗉𝗊𝗋𝗌𝗍𝗎𝗏𝗐𝗑𝗒𝗓" "𝟢𝟣𝟤𝟥𝟦𝟧𝟨𝟩𝟪𝟫",
    letterStyle "sans-serif-bold" ["ssb"] "sans" "Mathematical sans-serif bold"
      "𝗔𝗕𝗖𝗗𝗘𝗙𝗚𝗛𝗜𝗝𝗞𝗟𝗠𝗡𝗢𝗣𝗤𝗥𝗦𝗧𝗨𝗩𝗪𝗫𝗬𝗭"
      "𝗮𝗯𝗰𝗱𝗲𝗳𝗴𝗵𝗶𝗷𝗸𝗹𝗺𝗻𝗼𝗽𝗾𝗿𝘀𝘁𝘂𝘃𝘄𝘅𝘆𝘇" "𝟬𝟭𝟮𝟯𝟰𝟱𝟲𝟳𝟴𝟵",
    letterStyle "sans-serif-italic" ["ssi"] "sans" "Mathematical sans-serif italic"
      "𝘈𝘉𝘊𝘋𝘌𝘍𝘎𝘏𝘐𝘑𝘒𝘓𝘔𝘕𝘖𝘗𝘘𝘙𝘚𝘛𝘜𝘝𝘞𝘟𝘠𝘡"
      "𝘢𝘣𝘤𝘥𝘦𝘧𝘨𝘩𝘪𝘫𝘬𝘭𝘮𝘯𝘰𝘱𝘲𝘳𝘴𝘵𝘶𝘷𝘸𝘹𝘺𝘻" "",
    letterStyle "monospace" ["mono"] "technical" "Mathematical monospace"
      "𝙰𝙱𝙲𝙳𝙴𝙵𝙶𝙷𝙸𝙹𝙺𝙻𝙼𝙽𝙾𝙿𝚀𝚁𝚂𝚃𝚄𝚅𝚆𝚇𝚈𝚉"
      "𝚊𝚋𝚌𝚍𝚎𝚏𝚐𝚑𝚒𝚓𝚔𝚕𝚖𝚗𝚘𝚙𝚚𝚛𝚜𝚝𝚞𝚟𝚠𝚡𝚢𝚣" "𝟶𝟷𝟸𝟹𝟺𝟻𝟼𝟽𝟾𝟿",
    letterStyle "double-struck" ["ds"] "technical" "Blackboard bold"
      "𝔸𝔹ℂ𝔻𝔼𝔽𝔾ℍ𝕀𝕁𝕂𝕃𝕄ℕ𝕆ℙℚℝ𝕊𝕋𝕌𝕍𝕎𝕏𝕐ℤ"
      "𝕒𝕓𝕔𝕕𝕖𝕗𝕘𝕙𝕚𝕛𝕜𝕝𝕞𝕟𝕠𝕡𝕢𝕣𝕤𝕥𝕦𝕧𝕨𝕩𝕪𝕫" "𝟘𝟙𝟚𝟛𝟜𝟝𝟞𝟟𝟠𝟡",
    letterStyle "script" ["scr"] "decorative" "Bold script"
      "𝓐𝓑𝓒𝓓𝓔𝓕𝓖𝓗𝓘𝓙𝓚𝓛𝓜𝓝𝓞𝓟𝓠𝓡𝓢𝓣𝓤𝓥𝓦𝓧𝓨𝓩"
      "𝓪𝓫𝓬𝓭𝓮𝓯𝓰𝓱𝓲𝓳𝓴𝓵𝓶𝓷𝓸𝓹𝓺𝓻𝓼𝓽𝓾𝓿𝔀𝔁𝔂𝔃" "",
    letterStyle "fraktur" ["frak"] "decorative" "Fraktur (black-letter)"
      "𝔄𝔅ℭ𝔇𝔈𝔉𝔊ℌℑ𝔍𝔎𝔏𝔐𝔑𝔒𝔓𝔔ℜ𝔖𝔗𝔘𝔙𝔚𝔛𝔜ℨ"
      "𝔞𝔟𝔠𝔡𝔢𝔣𝔤𝔥𝔦𝔧𝔨𝔩𝔪𝔫𝔬𝔭𝔮𝔯𝔰𝔱𝔲𝔳𝔴𝔵𝔶𝔷" "",
    letterStyle "fullwidth" ["fw"] "wide" "Fullwidth forms"
      "ＡＢＣＤＥＦＧＨＩＪＫＬＭＮＯＰＱＲＳＴＵＶＷＸＹＺ"
      "ａｂｃｄｅｆｇｈｉｊｋｌｍｎｏｐｑｒｓｔｕｖｗｘｙｚ" "０１２３４５６７８９",
    letterStyle "negative-squared" ["ns"] "boxed" "White letters on black squares"
      "🅰🅱🅲🅳🅴🅵🅶🅷🅸🅹🅺🅻🅼🅽🅾🅿🆀🆁🆂🆃🆄🆅🆆🆇🆈🆉"
      "🅰🅱🅲🅳🅴🅵🅶🅷🅸🅹🅺🅻🅼🅽🅾🅿🆀🆁🆂🆃🆄🆅🆆🆇🆈🆉" "",
    letterStyle "negative-circled" ["nc"] "boxed" "White letters on black circles"
      "🅐🅑🅒🅓🅔🅕🅖🅗🅘🅙🅚🅛🅜🅝🅞🅟🅠🅡🅢🅣🅤🅥🅦🅧🅨🅩"
      "🅐🅑🅒🅓🅔🅕🅖🅗🅘🅙🅚🅛🅜🅝🅞🅟🅠🅡🅢🅣🅤🅥🅦🅧🅨🅩" "",
    letterStyle "squared-latin" ["sq"] "boxed" "Letters in squares"
      "🄰🄱🄲🄳🄴🄵🄶🄷🄸🄹🄺🄻🄼🄽🄾🄿🅀🅁🅂🅃🅄🅅🅆🅇🅈🅉"
      "🄰🄱🄲🄳🄴🄵🄶🄷🄸🄹🄺🄻🄼🄽🄾🄿🅀🅁🅂🅃🅄🅅🅆🅇🅈🅉" "",
    letterStyle "circled" ["circ"] "boxed" "Letters and digits in circles"
      "ⒶⒷⒸⒹⒺⒻⒼⒽⒾⒿⓀⓁⓂⓃⓄⓅⓆⓇⓈⓉⓊⓋⓌⓍⓎⓏ"
      "ⓐⓑⓒⓓⓔⓕⓖⓗⓘⓙⓚⓛⓜⓝⓞⓟⓠⓡⓢⓣⓤⓥⓦⓧⓨⓩ" "⓪①②③④⑤⑥⑦⑧⑨",
    letterStyle "small-caps" ["sc"] "decorative" "Small capitals"
      ""
      "ᴀʙᴄᴅᴇꜰɢʜɪᴊᴋʟᴍɴᴏᴘǫʀꜱᴛᴜᴠᴡxʏᴢ" ""]

def frames : List (Entry FrameBody) :=
  [textFrame "gradient" "grad" "Shaded block gradient" "▓▒░ " " ░▒▓",
    textFrame "solid-left" "bar-left" "Solid bar on the left" "█▌ " "",
    textFrame "solid-right" "bar-right" "Solid bar on the right" "" " ▐█",
    textFrame "line-light" "line" "Light horizontal rules" "─── " " ───",
    textFrame "line-bold" "rule" "Heavy horizontal rules" "━━━ " " ━━━",
    textFrame "dotted" "dots" "Middle dots" "··· " " ···",
    textFrame "brackets" "lenticular" "Lenticular brackets" "【" "】",
    textFrame "star" "stars" "Stars on both sides" "★ " " ★",
    textFrame "arrow" "arrows" "Arrows pointing inward" "→ " " ←"]

def badges : List (Entry BadgeBody) :=
  [letterBadge "circle" "circled-number" "Digits and letters in circles"
      "0123456789ABCDEFGHIJKLMNOPQRSTUVWXYZabcdefghijklmnopqrstuvwxyz"
      "⓪①②③④⑤⑥⑦⑧⑨ⒶⒷⒸⒹⒺⒻⒼⒽⒾⒿⓀⓁⓂⓃⓄⓅⓆⓇⓈⓉⓊⓋⓌⓍⓎⓏⓐⓑⓒⓓⓔⓕⓖⓗⓘⓙⓚⓛⓜⓝⓞⓟⓠⓡⓢⓣⓤⓥⓦⓧⓨⓩ",
    letterBadge "negative-circle" "nc-number" "Digits on black circles"
      "0123456789"
      "⓿❶❷❸❹❺❻❼❽❾",
    letterBadge "double-circle" "dc" "Digits in double circles"
      "123456789"
      "⓵⓶⓷⓸⓹⓺⓻⓼⓽",
    letterBadge "paren" "parenthesized" "Digits and letters in parentheses"
      "123456789abcdefghijklmnopqrstuvwxyz"
      "⑴⑵⑶⑷⑸⑹⑺⑻⑼⒜⒝⒞⒟⒠⒡⒢⒣⒤⒥⒦⒧⒨⒩⒪⒫⒬⒭⒮⒯⒰⒱⒲⒳⒴⒵",
    letterBadge "period" "dotted-number" "Digits followed by a full stop"
      "123456789"
      "⒈⒉⒊⒋⒌⒍⒎⒏⒐"]

def separators : List (Entry SeparatorBody) :=
  [mark "dot" "middot" "Middle dot" "·",
    mark "bullet" "bull" "Bullet" "•",
    mark "dash" "hline" "Light horizontal line" "─",
    mark "bolddash" "heavy-dash" "Heavy horizontal line" "━",
    mark "arrow" "rarr" "Rightwards arrow" "→",
    mark "pipe" "vline" "Light vertical line" "│",
    mark "star" "asterisk" "Black star" "★",
    mark "diamond" "lozenge" "Black diamond" "◆"]

def components : List (Entry ComponentBody) :=
  [⟨"divider", [], [.block], .text "Horizontal color bar", {
      selfClosing := true
      native := true
      template := ""
      arguments := []
      defaults := []
      parameters := [("colors", "ui.bg,ui.surface,accent,ui.panel"), ("style", "")]
      postProcess := none }⟩,
    ⟨"swatch", [], [.block, .inline], .text "Single color block", {
      selfClosing := true
      native := true
      template := ""
      arguments := ["color"]
      defaults := []
      parameters := [("style", ""), ("label", "")]
      postProcess := none }⟩,
    ⟨"tech", [], [.block, .inline], .text "Technology logo badge", {
      selfClosing := true
      native := true
      template := ""
      arguments := ["name"]
      defaults := []
      parameters := [("bg", "ui.bg"), ("logo", "white"), ("style", "")]
      postProcess := none }⟩,
    ⟨"status", [], [.block, .inline], .text "Status indicator (success, warning, error, info)", {
      selfClosing := true
      native := true
      template := ""
      arguments := ["level"]
      defaults := [("level", "info")]
      parameters := [("style", "")]
      postProcess := none }⟩,
    ⟨"header", ["title"], [.block], .text "Bold dotted title inside a gradient frame", {
      selfClosing := false
      native := false
      template := "\x7b\x7bframe:gradient\x7d\x7d\x7b\x7bmathbold:separator=dot\x7d\x7d$content\x7b\x7b/mathbold\x7d\x7d\x7b\x7b/frame\x7d\x7d"
      arguments := []
      defaults := []
      parameters := []
      postProcess := none }⟩,
    ⟨"callout", ["note"], [.block], .text "Blockquote led by a status indicator", {
      selfClosing := false
      native := false
      template := "\x7b\x7bui:status:$1/\x7d\x7d $content"
      arguments := ["type"]
      defaults := [("type", "info")]
      parameters := []
      postProcess := some ⟨.blockquote, .preExpand⟩ }⟩,
    ⟨"section", [], [.block], .text "Header followed by a divider and the section body", {
      selfClosing := false
      native := false
      template := "\x7b\x7bui:header\x7d\x7d$1\x7b\x7b/ui\x7d\x7d\n\x7b\x7bui:divider/\x7d\x7d\n$content"
      arguments := ["title"]
      defaults := []
      parameters := []
      postProcess := none }⟩,
    ⟨"row", [], [.block], .text "Inline items aligned in an HTML paragraph", {
      selfClosing := false
      native := false
      template := "$content"
      arguments := []
      defaults := []
      parameters := [("align", "center")]
      postProcess := some ⟨.row, .postExpand⟩ }⟩]

def palette : Table Text :=
  [("accent", "F41C80"),
    ("green", "22C55E"),
    ("yellow", "EAB308"),
    ("red", "EF4444"),
    ("blue", "3B82F6"),
    ("ui.bg", "292A2D"),
    ("ui.surface", "3B3B3F"),
    ("ui.panel", "4A4A50"),
    ("cobalt", "2B6CB0"),
    ("slate", "334155"),
    ("amber", "F59E0B"),
    ("white", "FFFFFF"),
    ("black", "000000")]

def shieldStyles : Table (List Text) :=
  [("flat-square", ["square"]),
    ("flat", []),
    ("plastic", []),
    ("for-the-badge", ["ftb"]),
    ("social", [])]

end Standard

/-- The registry that comes with the library, with the templates of a project. -/
def standard (partials : Table Text) : Registry where
  styles := Standard.styles
  frames := Standard.frames
  badges := Standard.badges
  separators := Standard.separators
  components := Standard.components
  partials := Load.partialEntries partials
  palette := Standard.palette
  shieldStyles := Standard.shieldStyles
  defaultShieldStyle := "flat-square"

/-- The file name under which reading the library's own registry is logged. -/
def standardFile : Text :=
  "registry.yaml"

end Flourish.Registry
