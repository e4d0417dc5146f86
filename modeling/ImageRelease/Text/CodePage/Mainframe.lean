import ImageRelease.Text.CodePage
/-!
Code pages of mainframes. Their first bytes are not those of ASCII.
-/

namespace ImageRelease.Text.CodePage

def mainframe : List CodePage :=
  [ { name := "cp037"
      others :=
        ["037", "csibm037", "ebcdic_cp_ca", "ebcdic_cp_nl", "ebcdic_cp_us", "ebcdic_cp_wt",
          "ibm037", "ibm039"]
      chars := ofRows [
        "\x00\x01\x02\x03\x9c\x09\x86\x7f\x97\x8d\x8e\x0b\x0c\x0d\x0e\x0f\x10\x11\x12\x13\x9d",
        "\x85\x08\x87\x18\x19\x92\x8f\x1c\x1d\x1e\x1f",
        "\x80\x81\x82\x83\x84\x0a\x17\x1b\x88\x89\x8a\x8b\x8c\x05\x06\x07\x90\x91\x16\x93\x94",
        "\x95\x96\x04\x98\x99\x9a\x9b\x14\x15\x9e\x1a",
        " \xa0âäàáãåçñ¢.<(+|&éêëèíîïìß!$*);¬",
        "-/ÂÄÀÁÃÅÇÑ¦,%_>?øÉÊËÈÍÎÏÌ`:#@'=\"",
        "Øabcdefghi«»ðýþ±°jklmnopqrªºæ¸Æ¤",
        "µ~stuvwxyz¡¿ÐÝÞ®^£¥·©§¶¼½¾[]¯¨´×",
        "\x7bABCDEFGHI\xadôöòóõ\x7dJKLMNOPQR¹ûüùúÿ",
        "\\÷STUVWXYZ²ÔÖÒÓÕ0123456789³ÛÜÙÚ\x9f"] },
    { name := "cp273"
      others := ["273", "csibm273", "ibm273"]
      chars := ofRows [
        "\x00\x01\x02\x03\x9c\x09\x86\x7f\x97\x8d\x8e\x0b\x0c\x0d\x0e\x0f\x10\x11\x12\x13\x9d",
        "\x85\x08\x87\x18\x19\x92\x8f\x1c\x1d\x1e\x1f",
        "\x80\x81\x82\x83\x84\x0a\x17\x1b\x88\x89\x8a\x8b\x8c\x05\x06\x07\x90\x91\x16\x93\x94",
        "\x95\x96\x04\x98\x99\x9a\x9b\x14\x15\x9e\x1a",
        " \xa0â\x7bàáãåçñÄ.<(+!&éêëèíîïì~Ü$*);^",
        "-/Â[ÀÁÃÅÇÑö,%_>?øÉÊËÈÍÎÏÌ`:#§'=\"",
        "Øabcdefghi«»ðýþ±°jklmnopqrªºæ¸Æ¤",
        "µßstuvwxyz¡¿ÐÝÞ®¢£¥·©@¶¼½¾¬|‾¨´×",
        "äABCDEFGHI\xadô¦òóõüJKLMNOPQR¹û\x7dùúÿ",
        "Ö÷STUVWXYZ²Ô\\ÒÓÕ0123456789³Û]ÙÚ\x9f"] },
    { name := "cp424"
      others := ["424", "csibm424", "ebcdic_cp_he", "ibm424"]
      chars := ofRows [
        "\x00\x01\x02\x03\x9c\x09\x86\x7f\x97\x8d\x8e\x0b\x0c\x0d\x0e\x0f\x10\x11\x12\x13\x9d",
        "\x85\x08\x87\x18\x19\x92\x8f\x1c\x1d\x1e\x1f",
        "\x80\x81\x82\x83\x84\x0a\x17\x1b\x88\x89\x8a\x8b\x8c\x05\x06\x07\x90\x91\x16\x93\x94",
        "\x95\x96\x04\x98\x99\x9a\x9b\x14\x15\x9e\x1a",
        " \u05d0\u05d1\u05d2\u05d3\u05d4\u05d5\u05d6\u05d7\u05d8¢.<(+|&\u05d9\u05da\u05db",
        "\u05dc\u05dd\u05de\u05df\u05e0\u05e1!$*);¬",
        "-/\u05e2\u05e3\u05e4\u05e5\u05e6\u05e7\u05e8\u05e9¦,%_>?�\u05ea��\xa0���‗`:#@'=\"",
        "�abcdefghi«»���±°jklmnopqr���¸�¤",
        "µ~stuvwxyz�����®^£¥·©§¶¼½¾[]¯¨´×",
        "\x7bABCDEFGHI\xad�����\x7dJKLMNOPQR¹�����",
        "\\÷STUVWXYZ²�����0123456789³����\x9f"] },
    { name := "cp500"
      others := ["500", "csibm500", "ebcdic_cp_be", "ebcdic_cp_ch", "ibm500"]
      chars := ofRows [
        "\x00\x01\x02\x03\x9c\x09\x86\x7f\x97\x8d\x8e\x0b\x0c\x0d\x0e\x0f\x10\x11\x12\x13\x9d",
        "\x85\x08\x87\x18\x19\x92\x8f\x1c\x1d\x1e\x1f",
        "\x80\x81\x82\x83\x84\x0a\x17\x1b\x88\x89\x8a\x8b\x8c\x05\x06\x07\x90\x91\x16\x93\x94",
        "\x95\x96\x04\x98\x99\x9a\x9b\x14\x15\x9e\x1a",
        " \xa0âäàáãåçñ[.<(+!&éêëèíîïìß]$*);^",
        "-/ÂÄÀÁÃÅÇÑ¦,%_>?øÉÊËÈÍÎÏÌ`:#@'=\"",
        "Øabcdefghi«»ðýþ±°jklmnopqrªºæ¸Æ¤",
        "µ~stuvwxyz¡¿ÐÝÞ®¢£¥·©§¶¼½¾¬|¯¨´×",
        "\x7bABCDEFGHI\xadôöòóõ\x7dJKLMNOPQR¹ûüùúÿ",
        "\\÷STUVWXYZ²ÔÖÒÓÕ0123456789³ÛÜÙÚ\x9f"] },
    { name := "cp875"
      chars := ofRows [
        "\x00\x01\x02\x03\x9c\x09\x86\x7f\x97\x8d\x8e\x0b\x0c\x0d\x0e\x0f\x10\x11\x12\x13\x9d",
        "\x85\x08\x87\x18\x19\x92\x8f\x1c\x1d\x1e\x1f",
        "\x80\x81\x82\x83\x84\x0a\x17\x1b\x88\x89\x8a\x8b\x8c\x05\x06\x07\x90\x91\x16\x93\x94",
        "\x95\x96\x04\x98\x99\x9a\x9b\x14\x15\x9e\x1a",
        " ΑΒΓΔΕΖΗΘΙ[.<(+!&ΚΛΜΝΞΟΠΡΣ]$*);^",
        "-/ΤΥΦΧΨΩΪΫ|,%_>?¨ΆΈΉ\xa0ΊΌΎΏ`:#@'=\"",
        "΅abcdefghiαβγδεζ°jklmnopqrηθικλμ",
        "´~stuvwxyzνξοπρσ£άέήϊίόύϋώςτυφχψ",
        "\x7bABCDEFGHI\xadωΐΰ‘―\x7dJKLMNOPQR±½\x1a·’¦",
        "\\\x1aSTUVWXYZ²§\x1a\x1a«¬0123456789³©\x1a\x1a»\x9f"] },
    { name := "cp1026"
      others := ["1026", "csibm1026", "ibm1026"]
      chars := ofRows [
        "\x00\x01\x02\x03\x9c\x09\x86\x7f\x97\x8d\x8e\x0b\x0c\x0d\x0e\x0f\x10\x11\x12\x13\x9d",
        "\x85\x08\x87\x18\x19\x92\x8f\x1c\x1d\x1e\x1f",
        "\x80\x81\x82\x83\x84\x0a\x17\x1b\x88\x89\x8a\x8b\x8c\x05\x06\x07\x90\x91\x16\x93\x94",
        "\x95\x96\x04\x98\x99\x9a\x9b\x14\x15\x9e\x1a",
        " \xa0âäàáãå\x7bñÇ.<(+!&éêëèíîïìßĞİ*);^",
        "-/ÂÄÀÁÃÅ[Ñş,%_>?øÉÊËÈÍÎÏÌı:ÖŞ'=Ü",
        "Øabcdefghi«»\x7d`¦±°jklmnopqrªºæ¸Æ¤",
        "µöstuvwxyz¡¿]$@®¢£¥·©§¶¼½¾¬|¯¨´×",
        "çABCDEFGHI\xadô~òóõğJKLMNOPQR¹û\\ùúÿ",
        "ü÷STUVWXYZ²Ô#ÒÓÕ0123456789³Û\"ÙÚ\x9f"] },
    { name := "cp1140"
      others := ["1140", "ibm1140"]
      chars := ofRows [
        "\x00\x01\x02\x03\x9c\x09\x86\x7f\x97\x8d\x8e\x0b\x0c\x0d\x0e\x0f\x10\x11\x12\x13\x9d",
        "\x85\x08\x87\x18\x19\x92\x8f\x1c\x1d\x1e\x1f",
        "\x80\x81\x82\x83\x84\x0a\x17\x1b\x88\x89\x8a\x8b\x8c\x05\x06\x07\x90\x91\x16\x93\x94",
        "\x95\x96\x04\x98\x99\x9a\x9b\x14\x15\x9e\x1a",
        " \xa0âäàáãåçñ¢.<(+|&éêëèíîïìß!$*);¬",
        "-/ÂÄÀÁÃÅÇÑ¦,%_>?øÉÊËÈÍÎÏÌ`:#@'=\"",
        "Øabcdefghi«»ðýþ±°jklmnopqrªºæ¸Æ€",
        "µ~stuvwxyz¡¿ÐÝÞ®^£¥·©§¶¼½¾[]¯¨´×",
        "\x7bABCDEFGHI\xadôöòóõ\x7dJKLMNOPQR¹ûüùúÿ",
        "\\÷STUVWXYZ²ÔÖÒÓÕ0123456789³ÛÜÙÚ\x9f"] }]

end ImageRelease.Text.CodePage
