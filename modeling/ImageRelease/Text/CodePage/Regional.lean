import ImageRelease.Text.CodePage
/-!
Code pages of single countries and makers.
-/

namespace ImageRelease.Text.CodePage

/-- Code pages for Cyrillic letters, for Urdu, and of two makers. -/
def regional : List CodePage :=
  [ { name := "koi8_r"
      others := ["cskoi8r"]
      chars := ascii ++ ofRows [
        "─│┌┐└┘├┤┬┴┼▀▄█▌▐░▒▓⌠■∙√≈≤≥\xa0⌡°²·÷",
        "═║╒ё╓╔╕╖╗╘╙╚╛╜╝╞╟╠╡Ё╢╣╤╥╦╧╨╩╪╫╬©",
        "юабцдефгхийклмнопярстужвьызшэщчъ",
        "ЮАБЦДЕФГХИЙКЛМНОПЯРСТУЖВЬЫЗШЭЩЧЪ"] },
    { name := "koi8_t"
      chars := ascii ++ ofRows [
        "қғ‚Ғ„…†‡�‰ҳ‹ҲҷҶ�Қ‘’“”•–—�™�›����",
        "�ӯӮё¤ӣ¦§���«¬\xad®�°±²Ё�Ӣ¶·�№�»���©",
        "юабцдефгхийклмнопярстужвьызшэщчъ",
        "ЮАБЦДЕФГХИЙКЛМНОПЯРСТУЖВЬЫЗШЭЩЧЪ"] },
    { name := "koi8_u"
      chars := ascii ++ ofRows [
        "─│┌┐└┘├┤┬┴┼▀▄█▌▐░▒▓⌠■∙√≈≤≥\xa0⌡°²·÷",
        "═║╒ёє╔ії╗╘╙╚╛ґ╝╞╟╠╡ЁЄ╣ІЇ╦╧╨╩╪Ґ╬©",
        "юабцдефгхийклмнопярстужвьызшэщчъ",
        "ЮАБЦДЕФГХИЙКЛМНОПЯРСТУЖВЬЫЗШЭЩЧЪ"] },
    { name := "kz1048"
      others := ["kz_1048", "rk1048", "strk1048_2002"]
      chars := ascii ++ ofRows [
        "ЂЃ‚ѓ„…†‡€‰Љ‹ЊҚҺЏђ‘’“”•–—�™љ›њқһџ",
        "\xa0ҰұӘ¤Ө¦§Ё©Ғ«¬\xad®Ү°±Ііөµ¶·ё№ғ»әҢңү",
        "АБВГДЕЖЗИЙКЛМНОПРСТУФХЦЧШЩЪЫЬЭЮЯ",
        "абвгдежзийклмнопрстуфхцчшщъыьэюя"] },
    { name := "ptcp154"
      others := ["cp154", "csptcp154", "cyrillic_asian", "pt154"]
      chars := ascii ++ ofRows [
        "ҖҒӮғ„…ҶҮҲүҠӢҢҚҺҸҗ‘’“”•–—ҳҷҡӣңқһҹ",
        "\xa0ЎўЈӨҘҰ§Ё©Ә«¬ӯ®Ҝ°ұІіҙө¶·ё№ә»јҪҫҝ",
        "АБВГДЕЖЗИЙКЛМНОПРСТУФХЦЧШЩЪЫЬЭЮЯ",
        "абвгдежзийклмнопрстуфхцчшщъыьэюя"] },
    { name := "cp1006"
      chars := ascii ++ controls ++ ofRows [
        "\xa0۰۱۲۳۴۵۶۷۸۹،\u061b\xad\u061f\ufe81\ufe8d\ufe8e\ufe8e\ufe8f\ufe91\ufb56\ufb58\ufe93",
        "\ufe95\ufe97\ufb66\ufb68\ufe99\ufe9b\ufe9d\ufe9f",
        "\ufb7a\ufb7c\ufea1\ufea3\ufea5\ufea7\ufea9\ufb84\ufeab\ufead\ufb8c\ufeaf\ufb8a\ufeb1",
        "\ufeb3\ufeb5\ufeb7\ufeb9\ufebb\ufebd\ufebf\ufec1\ufec5\ufec9\ufeca\ufecb\ufecc\ufecd",
        "\ufece\ufecf\ufed0\ufed1",
        "\ufed3\ufed5\ufed7\ufed9\ufedb\ufb92\ufb94\ufedd\ufedf\ufee0\ufee1\ufee3\ufb9e\ufee5",
        "\ufee7\ufe85\ufeed\ufba6\ufba8\ufba9\ufbaa\ufe80\ufe89\ufe8a\ufe8b\ufef1\ufef2\ufef3",
        "\ufbb0\ufbae\ufe7c\ufe7d"] },
    { name := "hp_roman8"
      others := ["cp1051", "csHPRoman8", "ibm1051", "r8", "roman8"]
      chars := ascii ++ controls ++ ofRows [
        "\xa0ÀÂÈÊËÎÏ´ˋˆ¨˜ÙÛ₤¯Ýý°ÇçÑñ¡¿¤£¥§ƒ¢",
        "âêôûáéóúàèòùäëöüÅîØÆåíøæÄìÖÜÉïßÔ",
        "ÁÃãÐðÍÌÓÒÕõŠšÚŸÿÞþ·µ¶¾—¼½ªº«■»±"] },
    { name := "palmos"
      chars := ascii ++ ofRows [
        "€\x81‚ƒ„…†‡ˆ‰Š‹Œ♦♣♥♠‘’“”•–—˜™š\x9bœ\x9d\x9eŸ",
        "\xa0¡¢£¤¥¦§¨©ª«¬\xad®¯°±²³´µ¶·¸¹º»¼½¾¿",
        "ÀÁÂÃÄÅÆÇÈÉÊËÌÍÎÏÐÑÒÓÔÕÖ×ØÙÚÛÜÝÞß",
        "àáâãäåæçèéêëìíîïðñòóôõö÷øùúûüýþÿ"] }]

end ImageRelease.Text.CodePage
