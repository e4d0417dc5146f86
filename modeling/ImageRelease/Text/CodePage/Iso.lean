import ImageRelease.Text.CodePage
/-!
The parts of ISO 8859 after the first. Control characters come first, then letters.
-/

namespace ImageRelease.Text.CodePage

/-- The parts of ISO 8859, and the Thai standard that one of them follows. -/
def iso : List CodePage :=
  [ { name := "iso8859_2"
      others := ["csisolatin2", "iso_8859_2", "iso_8859_2_1987", "iso_ir_101", "l2", "latin2"]
      chars := ascii ++ controls ++ ofRows [
        "\xa0Ą˘Ł¤ĽŚ§¨ŠŞŤŹ\xadŽŻ°ą˛ł´ľśˇ¸šşťź˝žż",
        "ŔÁÂĂÄĹĆÇČÉĘËĚÍÎĎĐŃŇÓÔŐÖ×ŘŮÚŰÜÝŢß",
        "ŕáâăäĺćçčéęëěíîďđńňóôőö÷řůúűüýţ˙"] },
    { name := "iso8859_3"
      others := ["csisolatin3", "iso_8859_3", "iso_8859_3_1988", "iso_ir_109", "l3", "latin3"]
      chars := ascii ++ controls ++ ofRows [
        "\xa0Ħ˘£¤�Ĥ§¨İŞĞĴ\xad�Ż°ħ²³´µĥ·¸ışğĵ½�ż",
        "ÀÁÂ�ÄĊĈÇÈÉÊËÌÍÎÏ�ÑÒÓÔĠÖ×ĜÙÚÛÜŬŜß",
        "àáâ�äċĉçèéêëìíîï�ñòóôġö÷ĝùúûüŭŝ˙"] },
    { name := "iso8859_4"
      others := ["csisolatin4", "iso_8859_4", "iso_8859_4_1988", "iso_ir_110", "l4", "latin4"]
      chars := ascii ++ controls ++ ofRows [
        "\xa0ĄĸŖ¤ĨĻ§¨ŠĒĢŦ\xadŽ¯°ą˛ŗ´ĩļˇ¸šēģŧŊžŋ",
        "ĀÁÂÃÄÅÆĮČÉĘËĖÍÎĪĐŅŌĶÔÕÖ×ØŲÚÛÜŨŪß",
        "āáâãäåæįčéęëėíîīđņōķôõö÷øųúûüũū˙"] },
    { name := "iso8859_5"
      others := ["csisolatincyrillic", "cyrillic", "iso_8859_5", "iso_8859_5_1988", "iso_ir_144"]
      chars := ascii ++ controls ++ ofRows [
        "\xa0ЁЂЃЄЅІЇЈЉЊЋЌ\xadЎЏАБВГДЕЖЗИЙКЛМНОП",
        "РСТУФХЦЧШЩЪЫЬЭЮЯабвгдежзийклмноп",
        "рстуфхцчшщъыьэюя№ёђѓєѕіїјљњћќ§ўџ"] },
    { name := "iso8859_6"
      others :=
        ["arabic", "asmo_708", "csisolatinarabic", "ecma_114", "iso_8859_6", "iso_8859_6_1987",
          "iso_ir_127"]
      chars := ascii ++ controls ++ ofRows [
        "\xa0���¤�������،\xad�������������\u061b���\u061f",
        "�\u0621\u0622\u0623\u0624\u0625\u0626\u0627\u0628\u0629\u062a\u062b\u062c\u062d\u062e",
        "\u062f\u0630\u0631\u0632\u0633\u0634\u0635\u0636\u0637\u0638\u0639\u063a�����",
        "\u0640\u0641\u0642\u0643\u0644\u0645\u0646\u0647\u0648\u0649\u064a\u064b\u064c\u064d",
        "\u064e\u064f\u0650\u0651\u0652"] },
    { name := "iso8859_7"
      others :=
        ["csisolatingreek", "ecma_118", "elot_928", "greek", "greek8", "iso_8859_7",
          "iso_8859_7_1987", "iso_ir_126"]
      chars := ascii ++ controls ++ ofRows [
        "\xa0‘’£€₯¦§¨©ͺ«¬\xad�―°±²³΄΅Ά·ΈΉΊ»Ό½ΎΏ",
        "ΐΑΒΓΔΕΖΗΘΙΚΛΜΝΞΟΠΡ�ΣΤΥΦΧΨΩΪΫάέήί",
        "ΰαβγδεζηθικλμνξοπρςστυφχψωϊϋόύώ"] },
    { name := "iso8859_8"
      others := ["csisolatinhebrew", "hebrew", "iso_8859_8", "iso_8859_8_1988", "iso_ir_138"]
      chars := ascii ++ controls ++ ofRows [
        "\xa0�¢£¤¥¦§¨©×«¬\xad®¯°±²³´µ¶·¸¹÷»¼½¾�",
        "�������������������������������‗",
        "\u05d0\u05d1\u05d2\u05d3\u05d4\u05d5\u05d6\u05d7\u05d8\u05d9\u05da\u05db\u05dc\u05dd",
        "\u05de\u05df\u05e0\u05e1\u05e2\u05e3\u05e4\u05e5\u05e6\u05e7\u05e8\u05e9\u05ea��",
        "\u200e\u200f"] },
    { name := "iso8859_9"
      others := ["csisolatin5", "iso_8859_9", "iso_8859_9_1989", "iso_ir_148", "l5", "latin5"]
      chars := ascii ++ controls ++ ofRows [
        "\xa0¡¢£¤¥¦§¨©ª«¬\xad®¯°±²³´µ¶·¸¹º»¼½¾¿",
        "ÀÁÂÃÄÅÆÇÈÉÊËÌÍÎÏĞÑÒÓÔÕÖ×ØÙÚÛÜİŞß",
        "àáâãäåæçèéêëìíîïğñòóôõö÷øùúûüışÿ"] },
    { name := "iso8859_10"
      others := ["csisolatin6", "iso_8859_10", "iso_8859_10_1992", "iso_ir_157", "l6", "latin6"]
      chars := ascii ++ controls ++ ofRows [
        "\xa0ĄĒĢĪĨĶ§ĻĐŠŦŽ\xadŪŊ°ąēģīĩķ·ļđšŧž―ūŋ",
        "ĀÁÂÃÄÅÆĮČÉĘËĖÍÎÏÐŅŌÓÔÕÖŨØŲÚÛÜÝÞß",
        "āáâãäåæįčéęëėíîïðņōóôõöũøųúûüýþĸ"] },
    { name := "iso8859_11"
      others := ["iso_8859_11", "iso_8859_11_2001", "thai"]
      chars := ascii ++ controls ++ ofRows [
        "\xa0กขฃคฅฆงจฉชซฌญฎฏฐฑฒณดตถทธนบปผฝพฟ",
        "ภมยรฤลฦวศษสหฬอฮฯะ\u0e31าำ\u0e34\u0e35\u0e36\u0e37\u0e38\u0e39\u0e3a����฿",
        "เแโใไๅๆ\u0e47\u0e48\u0e49\u0e4a\u0e4b\u0e4c\u0e4d\u0e4e๏๐๑๒๓๔๕๖๗๘๙๚๛"] },
    { name := "iso8859_13"
      others := ["iso_8859_13", "l7", "latin7"]
      chars := ascii ++ controls ++ ofRows [
        "\xa0”¢£¤„¦§Ø©Ŗ«¬\xad®Æ°±²³“µ¶·ø¹ŗ»¼½¾æ",
        "ĄĮĀĆÄÅĘĒČÉŹĖĢĶĪĻŠŃŅÓŌÕÖ×ŲŁŚŪÜŻŽß",
        "ąįāćäåęēčéźėģķīļšńņóōõö÷ųłśūüżž’"] },
    { name := "iso8859_14"
      others := ["iso_8859_14", "iso_8859_14_1998", "iso_celtic", "iso_ir_199", "l8", "latin8"]
      chars := ascii ++ controls ++ ofRows [
        "\xa0Ḃḃ£ĊċḊ§Ẁ©ẂḋỲ\xad®ŸḞḟĠġṀṁ¶ṖẁṗẃṠỳẄẅṡ",
        "ÀÁÂÃÄÅÆÇÈÉÊËÌÍÎÏŴÑÒÓÔÕÖṪØÙÚÛÜÝŶß",
        "àáâãäåæçèéêëìíîïŵñòóôõöṫøùúûüýŷÿ"] },
    { name := "iso8859_15"
      others := ["iso_8859_15", "l9", "latin9"]
      chars := ascii ++ controls ++ ofRows [
        "\xa0¡¢£€¥Š§š©ª«¬\xad®¯°±²³Žµ¶·ž¹º»ŒœŸ¿",
        "ÀÁÂÃÄÅÆÇÈÉÊËÌÍÎÏÐÑÒÓÔÕÖ×ØÙÚÛÜÝÞß",
        "àáâãäåæçèéêëìíîïðñòóôõö÷øùúûüýþÿ"] },
    { name := "iso8859_16"
      others := ["iso_8859_16", "iso_8859_16_2001", "iso_ir_226", "l10", "latin10"]
      chars := ascii ++ controls ++ ofRows [
        "\xa0ĄąŁ€„Š§š©Ș«Ź\xadźŻ°±ČłŽ”¶·žčș»ŒœŸż",
        "ÀÁÂĂÄĆÆÇÈÉÊËÌÍÎÏĐŃÒÓÔŐÖŚŰÙÚÛÜĘȚß",
        "àáâăäćæçèéêëìíîïđńòóôőöśűùúûüęțÿ"] },
    { name := "tis_620"
      others := ["iso_ir_166", "tis620", "tis_620_0", "tis_620_2529_0", "tis_620_2529_1"]
      chars := ascii ++ controls ++ ofRows [
        "�กขฃคฅฆงจฉชซฌญฎฏฐฑฒณดตถทธนบปผฝพฟ",
        "ภมยรฤลฦวศษสหฬอฮฯะ\u0e31าำ\u0e34\u0e35\u0e36\u0e37\u0e38\u0e39\u0e3a����฿",
        "เแโใไๅๆ\u0e47\u0e48\u0e49\u0e4a\u0e4b\u0e4c\u0e4d\u0e4e๏๐๑๒๓๔๕๖๗๘๙๚๛"] }]

end ImageRelease.Text.CodePage
