/-!
Character sets in which each byte is one character. A set is described by the codes of its
characters in hexadecimal digits, from the byte `80` on or, for sets that do not contain ASCII, from
the byte zero on: `A+3` stands for a code and the three that follow it, and a hyphen for bytes that
stand for nothing.
-/

namespace SignOn.Charset

def extensions : List (String × String) :=
  [("cp1006", "
80+20 6F0+9 60C 61B AD 61F FE81 FE8D+1 FE8E+1 FE91 FB56 FB58 FE93 FE95 FE97 FB66 FB68 FE99
FE9B FE9D FE9F FB7A FB7C FEA1 FEA3 FEA5 FEA7 FEA9 FB84 FEAB FEAD FB8C FEAF FB8A FEB1 FEB3
FEB5 FEB7 FEB9 FEBB FEBD FEBF FEC1 FEC5 FEC9+8 FED3 FED5 FED7 FED9 FEDB FB92 FB94 FEDD
FEDF+2 FEE3 FB9E FEE5 FEE7 FE85 FEED FBA6 FBA8+2 FE80 FE89+2 FEF1+2 FBB0 FBAE FE7C+1"),
   ("cp1125", "
410+2F 2591+2 2502 2524 2561+1 2556 2555 2563 2551 2557 255D 255C 255B 2510 2514 2534 252C
251C 2500 253C 255E+1 255A 2554 2569 2566 2560 2550 256C 2567+1 2564+1 2559 2558 2552+1 256B
256A 2518 250C 2588 2584 258C 2590 2580 440+F 401 451 490+1 404 454 406 456 407 457 B7 221A
2116 A4 25A0 A0"),
   ("cp1250", "
20AC - 201A - 201E 2026 2020+1 - 2030 160 2039 15A 164 17D 179 - 2018+1 201C+1 2022 2013+1 -
2122 161 203A 15B 165 17E 17A A0 2C7 2D8 141 A4 104 A6+3 15E AB+3 17B B0+1 2DB 142 B4+4 105
15F BB 13D 2DD 13E 17C 154 C1+1 102 C4 139 106 C7 10C C9 118 CB 11A CD+1 10E 110 143 147
D3+1 150 D6+1 158 16E DA 170 DC+1 162 DF 155 E1+1 103 E4 13A 107 E7 10D E9 119 EB 11B ED+1
10F 111 144 148 F3+1 151 F6+1 159 16F FA 171 FC+1 163 2D9"),
   ("cp1251", "
402+1 201A 453 201E 2026 2020+1 20AC 2030 409 2039 40A 40C 40B 40F 452 2018+1 201C+1 2022
2013+1 - 2122 459 203A 45A 45C 45B 45F A0 40E 45E 408 A4 490 A6+1 401 A9 404 AB+3 407 B0+1
406 456 491 B5+2 451 2116 454 BB 458 405 455 457 410+3F"),
   ("cp1252", "
20AC - 201A 192 201E 2026 2020+1 2C6 2030 160 2039 152 - 17D -+1 2018+1 201C+1 2022 2013+1
2DC 2122 161 203A 153 - 17E 178 A0+5F"),
   ("cp1253", "
20AC - 201A 192 201E 2026 2020+1 - 2030 - 2039 -+4 2018+1 201C+1 2022 2013+1 - 2122 - 203A
-+3 A0 385+1 A3+6 - AB+3 2015 B0+3 384 B5+2 388+2 BB 38C BD 38E+13 - 3A3+2B -"),
   ("cp1254", "
20AC - 201A 192 201E 2026 2020+1 2C6 2030 160 2039 152 -+3 2018+1 201C+1 2022 2013+1 2DC
2122 161 203A 153 -+1 178 A0+2F 11E D1+B 130 15E DF+10 11F F1+B 131 15F FF"),
   ("cp1255", "
20AC - 201A 192 201E 2026 2020+1 2C6 2030 - 2039 -+4 2018+1 201C+1 2022 2013+1 2DC 2122 -
203A -+3 A0+3 20AA A5+4 D7 AB+E F7 BB+4 5B0+9 - 5BB+8 5F0+4 -+6 5D0+1A -+1 200E+1 -"),
   ("cp1256", "
20AC 67E 201A 192 201E 2026 2020+1 2C6 2030 679 2039 152 686 698 688 6AF 2018+1 201C+1 2022
2013+1 6A9 2122 691 203A 153 200C+1 6BA A0 60C A2+7 6BE AB+E 61B BB+3 61F 6C1 621+15 D7
637+3 640+3 E0 644 E2 645+3 E7+4 649+1 EE+1 64B+3 F4 64F+1 F7 651 F9 652 FB+1 200E+1 6D2"),
   ("cp1257", "
20AC - 201A - 201E 2026 2020+1 - 2030 - 2039 - A8 2C7 B8 - 2018+1 201C+1 2022 2013+1 - 2122
- 203A - AF 2DB - A0 - A2+2 - A6+1 D8 A9 156 AB+3 C6 B0+7 F8 B9 157 BB+3 E6 104 12E 100 106
C4+1 118 112 10C C9 179 116 122 136 12A 13B 160 143 145 D3 14C D5+2 172 141 15A 16A DC 17B
17D DF 105 12F 101 107 E4+1 119 113 10D E9 17A 117 123 137 12B 13C 161 144 146 F3 14D F5+2
173 142 15B 16B FC 17C 17E 2D9"),
   ("cp1258", "
20AC - 201A 192 201E 2026 2020+1 2C6 2030 - 2039 152 -+3 2018+1 201C+1 2022 2013+1 2DC 2122
- 203A 153 -+1 178 A0+22 102 C4+7 300 CD+2 110 D1 309 D3+1 1A0 D6+6 1AF 303 DF+3 103 E4+7
301 ED+2 111 F1 323 F3+1 1A1 F6+6 1B0 20AB FF"),
   ("cp437", "
C7 FC E9 E2 E4 E0 E5 E7 EA+1 E8 EF EE EC C4+1 C9 E6 C6 F4 F6 F2 FB F9 FF D6 DC A2+1 A5 20A7
192 E1 ED F3 FA F1 D1 AA BA BF 2310 AC BD BC A1 AB BB 2591+2 2502 2524 2561+1 2556 2555 2563
2551 2557 255D 255C 255B 2510 2514 2534 252C 251C 2500 253C 255E+1 255A 2554 2569 2566 2560
2550 256C 2567+1 2564+1 2559 2558 2552+1 256B 256A 2518 250C 2588 2584 258C 2590 2580 3B1 DF
393 3C0 3A3 3C3 B5 3C4 3A6 398 3A9 3B4 221E 3C6 3B5 2229 2261 B1 2265 2264 2320+1 F7 2248 B0
2219 B7 221A 207F B2 25A0 A0"),
   ("cp720", "
80+1 E9 E2 84 E0 86 E7 EA+1 E8 EF EE 8D+3 651+1 F4 A4 640 FB F9 621+3 A3 625+10 AB BB 2591+2
2502 2524 2561+1 2556 2555 2563 2551 2557 255D 255C 255B 2510 2514 2534 252C 251C 2500 253C
255E+1 255A 2554 2569 2566 2560 2550 256C 2567+1 2564+1 2559 2558 2552+1 256B 256A 2518 250C
2588 2584 258C 2590 2580 636+4 641 B5 642+8 2261 64B+5 2248 B0 2219 B7 221A 207F B2 25A0 A0"),
   ("cp737", "
391+10 3A3+6 3B1+10 3C3 3C2 3C4+4 2591+2 2502 2524 2561+1 2556 2555 2563 2551 2557 255D 255C
255B 2510 2514 2534 252C 251C 2500 253C 255E+1 255A 2554 2569 2566 2560 2550 256C 2567+1
2564+1 2559 2558 2552+1 256B 256A 2518 250C 2588 2584 258C 2590 2580 3C9 3AC+2 3CA 3AF 3CC+1
3CB 3CE 386 388+2 38C 38E+1 B1 2265 2264 3AA+1 F7 2248 B0 2219 B7 221A 207F B2 25A0 A0"),
   ("cp775", "
106 FC E9 101 E4 123 E5 107 142 113 156+1 12B 179 C4+1 C9 E6 C6 14D F6 122 A2 15A+1 D6 DC F8
A3 D8 D7 A4 100 12A F3 17B+1 17A 201D A6 A9 AE AC BD BC 141 AB BB 2591+2 2502 2524 104 10C
118 116 2563 2551 2557 255D 12E 160 2510 2514 2534 252C 251C 2500 253C 172 16A 255A 2554
2569 2566 2560 2550 256C 17D 105 10D 119 117 12F 161 173 16B 17E 2518 250C 2588 2584 258C
2590 2580 D3 DF 14C 143 F5 D5 B5 144 136+1 13B+1 146 112 145 2019 AD B1 201C BE B6 A7 F7
201E B0 2219 B7 B9 B3 B2 25A0 A0"),
   ("cp850", "
C7 FC E9 E2 E4 E0 E5 E7 EA+1 E8 EF EE EC C4+1 C9 E6 C6 F4 F6 F2 FB F9 FF D6 DC F8 A3 D8 D7
192 E1 ED F3 FA F1 D1 AA BA BF AE AC BD BC A1 AB BB 2591+2 2502 2524 C1+1 C0 A9 2563 2551
2557 255D A2 A5 2510 2514 2534 252C 251C 2500 253C E3 C3 255A 2554 2569 2566 2560 2550 256C
A4 F0 D0 CA+1 C8 131 CD+2 2518 250C 2588 2584 A6 CC 2580 D3 DF D4 D2 F5 D5 B5 FE DE DA+1 D9
FD DD AF B4 AD B1 2017 BE B6 A7 F7 B8 B0 A8 B7 B9 B3 B2 25A0 A0"),
   ("cp852", "
C7 FC E9 E2 E4 16F 107 E7 142 EB 150+1 EE 179 C4 106 C9 139+1 F4 F6 13D+1 15A+1 D6 DC 164+1
141 D7 10D E1 ED F3 FA 104+1 17D+1 118+1 AC 17A 10C 15F AB BB 2591+2 2502 2524 C1+1 11A 15E
2563 2551 2557 255D 17B+1 2510 2514 2534 252C 251C 2500 253C 102+1 255A 2554 2569 2566 2560
2550 256C A4 111 110 10E CB 10F 147 CD+1 11B 2518 250C 2588 2584 162 16E 2580 D3 DF D4 143+1
148 160+1 154 DA 155 170 FD DD 163 B4 AD 2DD 2DB 2C7 2D8 A7 F7 B8 B0 A8 2D9 171 158+1 25A0
A0"),
   ("cp855", "
452 402 453 403 451 401 454 404 455 405 456 406 457 407 458 408 459 409 45A 40A 45B 40B 45C
40C 45E 40E 45F 40F 44E 42E 44A 42A 430 410 431 411 446 426 434 414 435 415 444 424 433 413
AB BB 2591+2 2502 2524 445 425 438 418 2563 2551 2557 255D 439 419 2510 2514 2534 252C 251C
2500 253C 43A 41A 255A 2554 2569 2566 2560 2550 256C A4 43B 41B 43C 41C 43D 41D 43E 41E 43F
2518 250C 2588 2584 41F 44F 2580 42F 440 420 441 421 442 422 443 423 436 416 432 412 44C 42C
2116 AD 44B 42B 437 417 448 428 44D 42D 449 429 447 427 A7 25A0 A0"),
   ("cp856", "
5D0+1A - A3 - D7 -+9 AE AC BD BC - AB BB 2591+2 2502 2524 -+2 A9 2563 2551 2557 255D A2 A5
2510 2514 2534 252C 251C 2500 253C -+1 255A 2554 2569 2566 2560 2550 256C A4 -+8 2518 250C
2588 2584 A6 - 2580 -+5 B5 -+6 AF B4 AD B1 2017 BE B6 A7 F7 B8 B0 A8 B7 B9 B3 B2 25A0 A0"),
   ("cp857", "
C7 FC E9 E2 E4 E0 E5 E7 EA+1 E8 EF EE 131 C4+1 C9 E6 C6 F4 F6 F2 FB F9 130 D6 DC F8 A3 D8
15E+1 E1 ED F3 FA F1 D1 11E+1 BF AE AC BD BC A1 AB BB 2591+2 2502 2524 C1+1 C0 A9 2563 2551
2557 255D A2 A5 2510 2514 2534 252C 251C 2500 253C E3 C3 255A 2554 2569 2566 2560 2550 256C
A4 BA AA CA+1 C8 - CD+2 2518 250C 2588 2584 A6 CC 2580 D3 DF D4 D2 F5 D5 B5 - D7 DA+1 D9 EC
FF AF B4 AD B1 - BE B6 A7 F7 B8 B0 A8 B7 B9 B3 B2 25A0 A0"),
   ("cp858", "
C7 FC E9 E2 E4 E0 E5 E7 EA+1 E8 EF EE EC C4+1 C9 E6 C6 F4 F6 F2 FB F9 FF D6 DC F8 A3 D8 D7
192 E1 ED F3 FA F1 D1 AA BA BF AE AC BD BC A1 AB BB 2591+2 2502 2524 C1+1 C0 A9 2563 2551
2557 255D A2 A5 2510 2514 2534 252C 251C 2500 253C E3 C3 255A 2554 2569 2566 2560 2550 256C
A4 F0 D0 CA+1 C8 20AC CD+2 2518 250C 2588 2584 A6 CC 2580 D3 DF D4 D2 F5 D5 B5 FE DE DA+1 D9
FD DD AF B4 AD B1 2017 BE B6 A7 F7 B8 B0 A8 B7 B9 B3 B2 25A0 A0"),
   ("cp860", "
C7 FC E9 E2+1 E0 C1 E7 EA CA E8 CD D4 EC C3 C2 C9 C0 C8 F4+1 F2 DA F9 CC D5 DC A2+1 D9 20A7
D3 E1 ED F3 FA F1 D1 AA BA BF D2 AC BD BC A1 AB BB 2591+2 2502 2524 2561+1 2556 2555 2563
2551 2557 255D 255C 255B 2510 2514 2534 252C 251C 2500 253C 255E+1 255A 2554 2569 2566 2560
2550 256C 2567+1 2564+1 2559 2558 2552+1 256B 256A 2518 250C 2588 2584 258C 2590 2580 3B1 DF
393 3C0 3A3 3C3 B5 3C4 3A6 398 3A9 3B4 221E 3C6 3B5 2229 2261 B1 2265 2264 2320+1 F7 2248 B0
2219 B7 221A 207F B2 25A0 A0"),
   ("cp861", "
C7 FC E9 E2 E4 E0 E5 E7 EA+1 E8 D0 F0 DE C4+1 C9 E6 C6 F4 F6 FE FB DD FD D6 DC F8 A3 D8 20A7
192 E1 ED F3 FA C1 CD D3 DA BF 2310 AC BD BC A1 AB BB 2591+2 2502 2524 2561+1 2556 2555 2563
2551 2557 255D 255C 255B 2510 2514 2534 252C 251C 2500 253C 255E+1 255A 2554 2569 2566 2560
2550 256C 2567+1 2564+1 2559 2558 2552+1 256B 256A 2518 250C 2588 2584 258C 2590 2580 3B1 DF
393 3C0 3A3 3C3 B5 3C4 3A6 398 3A9 3B4 221E 3C6 3B5 2229 2261 B1 2265 2264 2320+1 F7 2248 B0
2219 B7 221A 207F B2 25A0 A0"),
   ("cp862", "
5D0+1A A2+1 A5 20A7 192 E1 ED F3 FA F1 D1 AA BA BF 2310 AC BD BC A1 AB BB 2591+2 2502 2524
2561+1 2556 2555 2563 2551 2557 255D 255C 255B 2510 2514 2534 252C 251C 2500 253C 255E+1
255A 2554 2569 2566 2560 2550 256C 2567+1 2564+1 2559 2558 2552+1 256B 256A 2518 250C 2588
2584 258C 2590 2580 3B1 DF 393 3C0 3A3 3C3 B5 3C4 3A6 398 3A9 3B4 221E 3C6 3B5 2229 2261 B1
2265 2264 2320+1 F7 2248 B0 2219 B7 221A 207F B2 25A0 A0"),
   ("cp863", "
C7 FC E9 E2 C2 E0 B6 E7 EA+1 E8 EF EE 2017 C0 A7 C9 C8 CA F4 CB CF FB F9 A4 D4 DC A2+1 D9 DB
192 A6 B4 F3 FA A8 B8 B3 AF CE 2310 AC BD BC BE AB BB 2591+2 2502 2524 2561+1 2556 2555 2563
2551 2557 255D 255C 255B 2510 2514 2534 252C 251C 2500 253C 255E+1 255A 2554 2569 2566 2560
2550 256C 2567+1 2564+1 2559 2558 2552+1 256B 256A 2518 250C 2588 2584 258C 2590 2580 3B1 DF
393 3C0 3A3 3C3 B5 3C4 3A6 398 3A9 3B4 221E 3C6 3B5 2229 2261 B1 2265 2264 2320+1 F7 2248 B0
2219 B7 221A 207F B2 25A0 A0"),
   ("cp865", "
C7 FC E9 E2 E4 E0 E5 E7 EA+1 E8 EF EE EC C4+1 C9 E6 C6 F4 F6 F2 FB F9 FF D6 DC F8 A3 D8 20A7
192 E1 ED F3 FA F1 D1 AA BA BF 2310 AC BD BC A1 AB A4 2591+2 2502 2524 2561+1 2556 2555 2563
2551 2557 255D 255C 255B 2510 2514 2534 252C 251C 2500 253C 255E+1 255A 2554 2569 2566 2560
2550 256C 2567+1 2564+1 2559 2558 2552+1 256B 256A 2518 250C 2588 2584 258C 2590 2580 3B1 DF
393 3C0 3A3 3C3 B5 3C4 3A6 398 3A9 3B4 221E 3C6 3B5 2229 2261 B1 2265 2264 2320+1 F7 2248 B0
2219 B7 221A 207F B2 25A0 A0"),
   ("cp866", "
410+2F 2591+2 2502 2524 2561+1 2556 2555 2563 2551 2557 255D 255C 255B 2510 2514 2534 252C
251C 2500 253C 255E+1 255A 2554 2569 2566 2560 2550 256C 2567+1 2564+1 2559 2558 2552+1 256B
256A 2518 250C 2588 2584 258C 2590 2580 440+F 401 451 404 454 407 457 40E 45E B0 2219 B7
221A 2116 A4 25A0 A0"),
   ("cp869", "
-+5 386 - B7 AC A6 2018+1 388 2015 389+1 3AA 38C -+1 38E 3AB A9 38F B2+1 3AC A3 3AD+2 3CA
390 3CC+1 391+6 BD 398+1 AB BB 2591+2 2502 2524 39A+3 2563 2551 2557 255D 39E+1 2510 2514
2534 252C 251C 2500 253C 3A0+1 255A 2554 2569 2566 2560 2550 256C 3A3+6 3B1+2 2518 250C 2588
2584 3B4+1 2580 3B6+B 3C3 3C2 3C4 384 AD B1 3C5+2 A7 3C8 385 B0 A8 3C9 3CB 3B0 3CE 25A0 A0"),
   ("cp874", "
20AC -+3 2026 -+A 2018+1 201C+1 2022 2013+1 -+7 A0 E01+39 -+3 E3F+1C -+3"),
   ("hp_roman8", "
80+20 C0 C2 C8 CA+1 CE+1 B4 2CB 2C6 A8 2DC D9 DB 20A4 AF DD FD B0 C7 E7 D1 F1 A1 BF A4 A3 A5
A7 192 A2 E2 EA F4 FB E1 E9 F3 FA E0 E8 F2 F9 E4 EB F6 FC C5 EE D8 C6 E5 ED F8 E6 C4 EC D6
DC C9 EF DF D4 C1 C3 E3 D0 F0 CD CC D3 D2 D5 F5 160+1 DA 178 FF DE FE B7 B5+1 BE 2014 BC+1
AA BA AB 25A0 BB B1 -"),
   ("iso8859_10", "
80+20 104 112 122 12A 128 136 A7 13B 110 160 166 17D AD 16A 14A B0 105 113 123 12B 129 137
B7 13C 111 161 167 17E 2015 16B 14B 100 C1+5 12E 10C C9 118 CB 116 CD+3 145 14C D3+3 168 D8
172 DA+5 101 E1+5 12F 10D E9 119 EB 117 ED+3 146 14D F3+3 169 F8 173 FA+4 138"),
   ("iso8859_11", "
80+20 E01+39 -+3 E3F+1C -+3"),
   ("iso8859_13", "
80+20 201D A2+2 201E A6+1 D8 A9 156 AB+3 C6 B0+3 201C B5+2 F8 B9 157 BB+3 E6 104 12E 100 106
C4+1 118 112 10C C9 179 116 122 136 12A 13B 160 143 145 D3 14C D5+2 172 141 15A 16A DC 17B
17D DF 105 12F 101 107 E4+1 119 113 10D E9 17A 117 123 137 12B 13C 161 144 146 F3 14D F5+2
173 142 15B 16B FC 17C 17E 2019"),
   ("iso8859_14", "
80+20 1E02+1 A3 10A+1 1E0A A7 1E80 A9 1E82 1E0B 1EF2 AD+1 178 1E1E+1 120+1 1E40+1 B6 1E56
1E81 1E57 1E83 1E60 1EF3 1E84+1 1E61 C0+F 174 D1+5 1E6A D8+5 176 DF+10 175 F1+5 1E6B F8+5
177 FF"),
   ("iso8859_15", "
80+23 20AC A5 160 A7 161 A9+A 17D B5+2 17E B9+2 152+1 178 BF+40"),
   ("iso8859_16", "
80+20 104+1 141 20AC 201E 160 A7 161 A9 218 AB 179 AD 17A+1 B0+1 10C 142 17D 201D B6+1 17E
10D 219 BB 152+1 178 17C C0+2 102 C4 106 C6+9 110 143 D2+2 150 D6 15A 170 D9+3 118 21A DF+3
103 E4 107 E6+9 111 144 F2+2 151 F6 15B 171 F9+3 119 21B FF"),
   ("iso8859_2", "
80+20 104 2D8 141 A4 13D 15A A7+1 160 15E 164 179 AD 17D 17B B0 105 2DB 142 B4 13E 15B 2C7
B8 161 15F 165 17A 2DD 17E 17C 154 C1+1 102 C4 139 106 C7 10C C9 118 CB 11A CD+1 10E 110 143
147 D3+1 150 D6+1 158 16E DA 170 DC+1 162 DF 155 E1+1 103 E4 13A 107 E7 10D E9 119 EB 11B
ED+1 10F 111 144 148 F3+1 151 F6+1 159 16F FA 171 FC+1 163 2D9"),
   ("iso8859_3", "
80+20 126 2D8 A3+1 - 124 A7+1 130 15E 11E 134 AD - 17B B0 127 B2+3 125 B7+1 131 15F 11F 135
BD - 17C C0+2 - C4 10A 108 C7+8 - D1+3 120 D6+1 11C D9+3 16C 15C DF+3 - E4 10B 109 E7+8 -
F1+3 121 F6+1 11D F9+3 16D 15D 2D9"),
   ("iso8859_4", "
80+20 104 138 156 A4 128 13B A7+1 160 112 122 166 AD 17D AF+1 105 2DB 157 B4 129 13C 2C7 B8
161 113 123 167 14A 17E 14B 100 C1+5 12E 10C C9 118 CB 116 CD+1 12A 110 145 14C 136 D4+4 172
DA+2 168 16A DF 101 E1+5 12F 10D E9 119 EB 117 ED+1 12B 111 146 14D 137 F4+4 173 FA+2 169
16B 2D9"),
   ("iso8859_5", "
80+20 401+B AD 40E+41 2116 451+B A7 45E+1"),
   ("iso8859_6", "
80+20 -+2 A4 -+6 60C AD -+C 61B -+2 61F - 621+19 -+4 640+12 -+C"),
   ("iso8859_7", "
80+20 2018+1 A3 20AC 20AF A6+3 37A AB+2 - 2015 B0+3 384+2 B7 388+2 BB 38C BD 38E+13 - 3A3+2B
-"),
   ("iso8859_8", "
80+20 - A2+7 D7 AB+E F7 BB+3 -+1F 2017 5D0+1A -+1 200E+1 -"),
   ("iso8859_9", "
80+4F 11E D1+B 130 15E DF+10 11F F1+B 131 15F FF"),
   ("koi8_r", "
2500 2502 250C 2510 2514 2518 251C 2524 252C 2534 253C 2580 2584 2588 258C 2590+3 2320 25A0
2219+1 2248 2264+1 A0 2321 B0 B2 B7 F7 2550+2 451 2553+E 401 2562+A A9 44E 430+1 446 434+1
444 433 445 438+7 44F 440+3 436 432 44C 44B 437 448 44D 449 447 44A 42E 410+1 426 414+1 424
413 425 418+7 42F 420+3 416 412 42C 42B 417 428 42D 429 427 42A"),
   ("koi8_t", "
49B 493 201A 492 201E 2026 2020+1 - 2030 4B3 2039 4B2 4B7 4B6 - 49A 2018+1 201C+1 2022
2013+1 - 2122 - 203A -+4 4EF 4EE 451 A4 4E3 A6+1 -+2 AB+3 - B0+2 401 - 4E2 B6+1 - 2116 - BB
-+2 A9 44E 430+1 446 434+1 444 433 445 438+7 44F 440+3 436 432 44C 44B 437 448 44D 449 447
44A 42E 410+1 426 414+1 424 413 425 418+7 42F 420+3 416 412 42C 42B 417 428 42D 429 427 42A"),
   ("koi8_u", "
2500 2502 250C 2510 2514 2518 251C 2524 252C 2534 253C 2580 2584 2588 258C 2590+3 2320 25A0
2219+1 2248 2264+1 A0 2321 B0 B2 B7 F7 2550+2 451 454 2554 456+1 2557+4 491 255D+4 401 404
2563 406+1 2566+4 490 256C A9 44E 430+1 446 434+1 444 433 445 438+7 44F 440+3 436 432 44C
44B 437 448 44D 449 447 44A 42E 410+1 426 414+1 424 413 425 418+7 42F 420+3 416 412 42C 42B
417 428 42D 429 427 42A"),
   ("kz1048", "
402+1 201A 453 201E 2026 2020+1 20AC 2030 409 2039 40A 49A 4BA 40F 452 2018+1 201C+1 2022
2013+1 - 2122 459 203A 45A 49B 4BB 45F A0 4B0+1 4D8 A4 4E8 A6+1 401 A9 492 AB+3 4AE B0+1 406
456 4E9 B5+2 451 2116 493 BB 4D9 4A2+1 4AF 410+3F"),
   ("mac_arabic", "
C4 A0 C7 C9 D1 D6 DC E1 E0 E2 E4 6BA AB E7 E9 E8 EA+1 ED 2026 EE+1 F1 F3 BB F4 F6+1 FA F9
FB+1 20+4 66A 26+5 60C 2D+2 660+9 3A 61B 3C+2 61F 274A 621+19 5B+4 640+12 67E 679 686 6D5
6A4 6AF 688 691 7B+2 698 6D2"),
   ("mac_croatian", "
C4+1 C7 C9 D1 D6 DC E1 E0 E2 E4 E3 E5 E7 E9 E8 EA+1 ED EC EE+1 F1 F3 F2 F4 F6 F5 FA F9 FB+1
2020 B0 A2+1 A7 2022 B6 DF AE 160 2122 B4 A8 2260 17D D8 221E B1 2264+1 2206 B5 2202 2211
220F 161 222B AA BA 3A9 17E F8 BF A1 AC 221A 192 2248 106 AB 10C 2026 A0 C0 C3 D5 152+1 110
2014 201C+1 2018+1 F7 25CA F8FF A9 2044 20AC 2039+1 C6 BB 2013 B7 201A 201E 2030 C2 107 C1
10D C8 CD+2 CC D3+1 111 D2 DA+1 D9 131 2C6 2DC AF 3C0 CB 2DA B8 CA E6 2C7"),
   ("mac_cyrillic", "
410+1F 2020 B0 490 A3 A7 2022 B6 406 AE A9 2122 402 452 2260 403 453 221E B1 2264+1 456 B5
491 408 404 454 407 457 409 459 40A 45A 458 405 AC 221A 192 2248 2206 AB BB 2026 A0 40B 45B
40C 45C 455 2013+1 201C+1 2018+1 F7 201E 40E 45E 40F 45F 2116 401 451 44F 430+1E 20AC"),
   ("mac_farsi", "
C4 A0 C7 C9 D1 D6 DC E1 E0 E2 E4 6BA AB E7 E9 E8 EA+1 ED 2026 EE+1 F1 F3 BB F4 F6+1 FA F9
FB+1 20+4 66A 26+5 60C 2D+2 6F0+9 3A 61B 3C+2 61F 274A 621+19 5B+4 640+12 67E 679 686 6D5
6A4 6AF 688 691 7B+2 698 6D2"),
   ("mac_greek", "
C4 B9 B2 C9 B3 D6 DC 385 E0 E2 E4 384 A8 E7 E9 E8 EA+1 A3 2122 EE+1 2022 BD 2030 F4 F6 A6
20AC F9 FB+1 2020 393+1 398 39B 39E 3A0 DF AE A9 3A3 3AA A7 2260 B0 B7 391 B1 2264+1 A5 392
395+2 399+1 39C 3A6 3AB 3A8+1 3AC 39D AC 39F 3A1 2248 3A4 AB BB 2026 A0 3A5 3A7 386 388 153
2013 2015 201C+1 2018+1 F7 389+1 38C 38E 3AD+2 3CC 38F 3CD 3B1+1 3C8 3B4+1 3C6 3B3 3B7 3B9
3BE 3BA+3 3BF+1 3CE 3C1 3C3+1 3B8 3C9 3C2 3C7 3C5 3B6 3CA+1 390 3B0 AD"),
   ("mac_iceland", "
C4+1 C7 C9 D1 D6 DC E1 E0 E2 E4 E3 E5 E7 E9 E8 EA+1 ED EC EE+1 F1 F3 F2 F4 F6 F5 FA F9 FB+1
DD B0 A2+1 A7 2022 B6 DF AE A9 2122 B4 A8 2260 C6 D8 221E B1 2264+1 A5 B5 2202 2211 220F 3C0
222B AA BA 3A9 E6 F8 BF A1 AC 221A 192 2248 2206 AB BB 2026 A0 C0 C3 D5 152+1 2013+1 201C+1
2018+1 F7 25CA FF 178 2044 20AC D0 F0 DE FE FD B7 201A 201E 2030 C2 CA C1 CB C8 CD+2 CC D3+1
F8FF D2 DA+1 D9 131 2C6 2DC AF 2D8+2 B8 2DD 2DB 2C7"),
   ("mac_latin2", "
C4 100+1 C9 104 D6 DC E1 105 10C E4 10D 106+1 E9 179+1 10E ED 10F 112+1 116 F3 117 F4 F6 F5
FA 11A+1 FC 2020 B0 118 A3 A7 2022 B6 DF AE A9 2122 119 A8 2260 123 12E+1 12A 2264+1 12B 136
2202 2211 142 13B+3 139+1 145+1 143 AC 221A 144 147 2206 AB BB 2026 A0 148 150 D5 151 14C
2013+1 201C+1 2018+1 F7 25CA 14D 154+1 158 2039+1 159 156+1 160 201A 201E 161 15A+1 C1 164+1
CD 17D+1 16A D3+1 16B 16E DA 16F+4 DD FD 137 17B 141 17C 122 2C7"),
   ("mac_roman", "
C4+1 C7 C9 D1 D6 DC E1 E0 E2 E4 E3 E5 E7 E9 E8 EA+1 ED EC EE+1 F1 F3 F2 F4 F6 F5 FA F9 FB+1
2020 B0 A2+1 A7 2022 B6 DF AE A9 2122 B4 A8 2260 C6 D8 221E B1 2264+1 A5 B5 2202 2211 220F
3C0 222B AA BA 3A9 E6 F8 BF A1 AC 221A 192 2248 2206 AB BB 2026 A0 C0 C3 D5 152+1 2013+1
201C+1 2018+1 F7 25CA FF 178 2044 20AC 2039+1 FB01+1 2021 B7 201A 201E 2030 C2 CA C1 CB C8
CD+2 CC D3+1 F8FF D2 DA+1 D9 131 2C6 2DC AF 2D8+2 B8 2DD 2DB 2C7"),
   ("mac_romanian", "
C4+1 C7 C9 D1 D6 DC E1 E0 E2 E4 E3 E5 E7 E9 E8 EA+1 ED EC EE+1 F1 F3 F2 F4 F6 F5 FA F9 FB+1
2020 B0 A2+1 A7 2022 B6 DF AE A9 2122 B4 A8 2260 102 218 221E B1 2264+1 A5 B5 2202 2211 220F
3C0 222B AA BA 3A9 103 219 BF A1 AC 221A 192 2248 2206 AB BB 2026 A0 C0 C3 D5 152+1 2013+1
201C+1 2018+1 F7 25CA FF 178 2044 20AC 2039+1 21A+1 2021 B7 201A 201E 2030 C2 CA C1 CB C8
CD+2 CC D3+1 F8FF D2 DA+1 D9 131 2C6 2DC AF 2D8+2 B8 2DD 2DB 2C7"),
   ("mac_turkish", "
C4+1 C7 C9 D1 D6 DC E1 E0 E2 E4 E3 E5 E7 E9 E8 EA+1 ED EC EE+1 F1 F3 F2 F4 F6 F5 FA F9 FB+1
2020 B0 A2+1 A7 2022 B6 DF AE A9 2122 B4 A8 2260 C6 D8 221E B1 2264+1 A5 B5 2202 2211 220F
3C0 222B AA BA 3A9 E6 F8 BF A1 AC 221A 192 2248 2206 AB BB 2026 A0 C0 C3 D5 152+1 2013+1
201C+1 2018+1 F7 25CA FF 178 11E+1 130+1 15E+1 2021 B7 201A 201E 2030 C2 CA C1 CB C8 CD+2 CC
D3+1 F8FF D2 DA+1 D9 F8A0 2C6 2DC AF 2D8+2 B8 2DD 2DB 2C7"),
   ("palmos", "
20AC 81 201A 192 201E 2026 2020+1 2C6 2030 160 2039 152 2666 2663 2665 2660 2018+1 201C+1
2022 2013+1 2DC 2122 161 9B 153 9D+1 178 A0+5F"),
   ("ptcp154", "
496 492 4EE 493 201E 2026 4B6 4AE 4B2 4AF 4A0 4E2 4A2 49A 4BA 4B8 497 2018+1 201C+1 2022
2013+1 4B3 4B7 4A1 4E3 4A3 49B 4BB 4B9 A0 40E 45E 408 4E8 498 4B0 A7 401 A9 4D8 AB+1 4EF AE
49C B0 4B1 406 456 499 4E9 B6+1 451 2116 4D9 BB 458 4AA+1 49D 410+3F"),
   ("tis_620", "
80+1F - E01+39 -+3 E3F+1C -+3")]

def otherSets : List (String × String) :=
  [("cp037", "
0+3 9C 9 86 7F 97 8D+1 B+8 9D 85 8 87 18+1 92 8F 1C+3 80+4 A 17 1B 88+4 5+2 90+1 16 93+3 4
98+3 14+1 9E 1A 20 A0 E2 E4 E0+1 E3 E5 E7 F1 A2 2E 3C 28 2B 7C 26 E9+2 E8 ED+2 EC DF 21 24
2A 29 3B AC 2D 2F C2 C4 C0+1 C3 C5 C7 D1 A6 2C 25 5F 3E+1 F8 C9+2 C8 CD+2 CC 60 3A 23 40 27
3D 22 D8 61+8 AB BB F0 FD+1 B1 B0 6A+8 AA BA E6 B8 C6 A4 B5 7E 73+7 A1 BF D0 DD+1 AE 5E A3
A5 B7 A9 A7 B6 BC+2 5B 5D AF A8 B4 D7 7B 41+8 AD F4 F6 F2+1 F5 7D 4A+8 B9 FB+1 F9+1 FF 5C F7
53+7 B2 D4 D6 D2+1 D5 30+9 B3 DB+1 D9+1 9F"),
   ("cp1026", "
0+3 9C 9 86 7F 97 8D+1 B+8 9D 85 8 87 18+1 92 8F 1C+3 80+4 A 17 1B 88+4 5+2 90+1 16 93+3 4
98+3 14+1 9E 1A 20 A0 E2 E4 E0+1 E3 E5 7B F1 C7 2E 3C 28 2B 21 26 E9+2 E8 ED+2 EC DF 11E 130
2A 29 3B 5E 2D 2F C2 C4 C0+1 C3 C5 5B D1 15F 2C 25 5F 3E+1 F8 C9+2 C8 CD+2 CC 131 3A D6 15E
27 3D DC D8 61+8 AB BB 7D 60 A6 B1 B0 6A+8 AA BA E6 B8 C6 A4 B5 F6 73+7 A1 BF 5D 24 40 AE
A2+1 A5 B7 A9 A7 B6 BC+2 AC 7C AF A8 B4 D7 E7 41+8 AD F4 7E F2+1 F5 11F 4A+8 B9 FB 5C F9+1
FF FC F7 53+7 B2 D4 23 D2+1 D5 30+9 B3 DB 22 D9+1 9F"),
   ("cp1140", "
0+3 9C 9 86 7F 97 8D+1 B+8 9D 85 8 87 18+1 92 8F 1C+3 80+4 A 17 1B 88+4 5+2 90+1 16 93+3 4
98+3 14+1 9E 1A 20 A0 E2 E4 E0+1 E3 E5 E7 F1 A2 2E 3C 28 2B 7C 26 E9+2 E8 ED+2 EC DF 21 24
2A 29 3B AC 2D 2F C2 C4 C0+1 C3 C5 C7 D1 A6 2C 25 5F 3E+1 F8 C9+2 C8 CD+2 CC 60 3A 23 40 27
3D 22 D8 61+8 AB BB F0 FD+1 B1 B0 6A+8 AA BA E6 B8 C6 20AC B5 7E 73+7 A1 BF D0 DD+1 AE 5E A3
A5 B7 A9 A7 B6 BC+2 5B 5D AF A8 B4 D7 7B 41+8 AD F4 F6 F2+1 F5 7D 4A+8 B9 FB+1 F9+1 FF 5C F7
53+7 B2 D4 D6 D2+1 D5 30+9 B3 DB+1 D9+1 9F"),
   ("cp273", "
0+3 9C 9 86 7F 97 8D+1 B+8 9D 85 8 87 18+1 92 8F 1C+3 80+4 A 17 1B 88+4 5+2 90+1 16 93+3 4
98+3 14+1 9E 1A 20 A0 E2 7B E0+1 E3 E5 E7 F1 C4 2E 3C 28 2B 21 26 E9+2 E8 ED+2 EC 7E DC 24
2A 29 3B 5E 2D 2F C2 5B C0+1 C3 C5 C7 D1 F6 2C 25 5F 3E+1 F8 C9+2 C8 CD+2 CC 60 3A 23 A7 27
3D 22 D8 61+8 AB BB F0 FD+1 B1 B0 6A+8 AA BA E6 B8 C6 A4 B5 DF 73+7 A1 BF D0 DD+1 AE A2+1 A5
B7 A9 40 B6 BC+2 AC 7C 203E A8 B4 D7 E4 41+8 AD F4 A6 F2+1 F5 FC 4A+8 B9 FB 7D F9+1 FF D6 F7
53+7 B2 D4 5C D2+1 D5 30+9 B3 DB 5D D9+1 9F"),
   ("cp424", "
0+3 9C 9 86 7F 97 8D+1 B+8 9D 85 8 87 18+1 92 8F 1C+3 80+4 A 17 1B 88+4 5+2 90+1 16 93+3 4
98+3 14+1 9E 1A 20 5D0+8 A2 2E 3C 28 2B 7C 26 5D9+8 21 24 2A 29 3B AC 2D 2F 5E2+7 A6 2C 25
5F 3E+1 - 5EA -+1 A0 -+2 2017 60 3A 23 40 27 3D 22 - 61+8 AB BB -+2 B1 B0 6A+8 -+2 B8 - A4
B5 7E 73+7 -+4 AE 5E A3 A5 B7 A9 A7 B6 BC+2 5B 5D AF A8 B4 D7 7B 41+8 AD -+4 7D 4A+8 B9 -+4
5C F7 53+7 B2 -+4 30+9 B3 -+3 9F"),
   ("cp500", "
0+3 9C 9 86 7F 97 8D+1 B+8 9D 85 8 87 18+1 92 8F 1C+3 80+4 A 17 1B 88+4 5+2 90+1 16 93+3 4
98+3 14+1 9E 1A 20 A0 E2 E4 E0+1 E3 E5 E7 F1 5B 2E 3C 28 2B 21 26 E9+2 E8 ED+2 EC DF 5D 24
2A 29 3B 5E 2D 2F C2 C4 C0+1 C3 C5 C7 D1 A6 2C 25 5F 3E+1 F8 C9+2 C8 CD+2 CC 60 3A 23 40 27
3D 22 D8 61+8 AB BB F0 FD+1 B1 B0 6A+8 AA BA E6 B8 C6 A4 B5 7E 73+7 A1 BF D0 DD+1 AE A2+1 A5
B7 A9 A7 B6 BC+2 AC 7C AF A8 B4 D7 7B 41+8 AD F4 F6 F2+1 F5 7D 4A+8 B9 FB+1 F9+1 FF 5C F7
53+7 B2 D4 D6 D2+1 D5 30+9 B3 DB+1 D9+1 9F"),
   ("cp864", "
0+24 66A 26+59 B0 B7 2219+1 2592 2500 2502 253C 2524 252C 251C 2534 2510 250C 2514 2518 3B2
221E 3C6 B1 BD BC 2248 AB BB FEF7+1 -+1 FEFB+1 - A0 AD FE82 A3+1 FE84 -+1 FE8E+1 FE95 FE99
60C FE9D FEA1 FEA5 660+9 FED1 61B FEB1 FEB5 FEB9 61F A2 FE80+1 FE83 FE85 FECA FE8B FE8D FE91
FE93 FE97 FE9B FE9F FEA3 FEA7 FEA9 FEAB FEAD FEAF FEB3 FEB7 FEBB FEBF FEC1 FEC5 FECB FECF A6
AC F7 D7 FEC9 640 FED3 FED7 FEDB FEDF FEE3 FEE7 FEEB FEED FEEF FEF3 FEBD FECC FECE FECD FEE1
FE7D 651 FEE5 FEE9 FEEC FEF0 FEF2 FED0 FED5 FEF5+1 FEDD FED9 FEF1 25A0 -"),
   ("cp875", "
0+3 9C 9 86 7F 97 8D+1 B+8 9D 85 8 87 18+1 92 8F 1C+3 80+4 A 17 1B 88+4 5+2 90+1 16 93+3 4
98+3 14+1 9E 1A 20 391+8 5B 2E 3C 28 2B 21 26 39A+7 3A3 5D 24 2A 29 3B 5E 2D 2F 3A4+7 7C 2C
25 5F 3E+1 A8 386 388+1 A0 38A 38C 38E+1 60 3A 23 40 27 3D 22 385 61+8 3B1+5 B0 6A+8 3B7+5
B4 7E 73+7 3BD+4 3C3 A3 3AC+2 3CA 3AF 3CC+1 3CB 3CE 3C2 3C4+4 7B 41+8 AD 3C9 390 3B0 2018
2015 7D 4A+8 B1 BD 1A 387 2019 A6 5C 1A 53+7 B2 A7 1A 1A AB+1 30+9 B3 A9 1A 1A BB 9F")]

end SignOn.Charset
