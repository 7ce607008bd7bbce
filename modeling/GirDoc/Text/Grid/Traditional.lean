/-!
# Traditional Chinese characters

The characters of Big5 and its extensions, in runs of cells. Each run is given by the number of its first
cell and the characters from there on.
-/

namespace GirDoc.Text.Grid.Run

/-- The characters of Big5. -/
def big5 : List (Nat × String) :=
  [(5024, "\u3000，、8．•；6<`)^&…6﹐cS]=·﹔!#cD–︱—︳"),
    (5051, "︴RbP8^#8cd9])8〔8︹8【8︻8《8︽8〈8︿8「8﹁8『8﹃8L!%‘8:8〝8‵4＃:;※§〃○;`+6Sa'6_a6_z6T6㊣℅^0"), (5122, "＿"),
    (5124, "﹉8:848J88bA9×W±√＜96≦80_]a#F﹢!$∼$8aj^r6b7㏒6∫:>6l396_g↑949;896b$5"),
    (5182, "／`t_g¥〒¢8％R℃=﹩88㏕_f88`w_r$8a$°兙9:6;9mS瓩wD▁!'>666666_R////ag^c9b*^n;;;aD896`(EC.ap896_,88０!)Ⅰ!)〡!("),
    (5288, "卄"), (5290, "Ａ!9>!9Α!09!&?!09!&ㄅ!D˙'84;"),
    (5495, "一aH_G9a/Q`p=`ugd`m=adW8b1ai`sRa[三949XDk(久:N6`wJh&bZc6a8auQike[`qIa;el89b<NJMa(dS?C88Bacb#D?ii丑64W:@I尹予@;"),
    (5569, "互9EV6::8=480g^5`m=85`raNG88c2:8NZF65P`ma66:o>a,96:f^bTJMa$dlavasL8bEg$`uL:hhaGGDL`scJOWkwa1NaA@>a#`ll^eN"),
    (5644, "父<CI9a@bv丙466;ZI96b.*3!#C8,<gF6a48Ya<85Ib-6aU8H=仟m:6O6F6a<a#,F0926K34-2;?66,?Ehg6fsO:a29en`ubPe;66S8a_@"),
    (5729, "弁N6bEg$a8856j+a0d/5589l]aYa36`o@65s0bl<d:A`y>@8>!#aGc1`xH`vc,>Hd.asbMaF丞8`z8M`wB96aIAG(B/:85`*;<,:A;Afu5"),
    (5806, "兆9W@SZaV183?b$aTP6a?8b/=45=(A0D322B/ChU56aE4/<6:1f'8T8a;+B13@6ee8`v84;a`SaRdL`oa_5b2CbU4fo58:aB/4hebJ6;8"),
    (5888, "曲8Ma#.4;kka2Nb2a619=8'<C1)8lIf&5lHmJdaatfuaC`za39@=Xa;A98d>>@@GF;a>;CkledCNc[阡串aeb<9/G>_u`n1_zW8#45BH`/A"),
    (5965, "佣0;_nV`/Z;`2If)69`oa08a]6<85ar589afa?9b?G(W`/`o_xV4'L1_xEX&94->8`1S;(1+DhE=+>aN>&D1>'I6#eCa>aN,M-<-4.N&."),
    (6048, "妥eG658`x6;b4K856aA8:/dFXar/:廷DRa45L9aN+B-[1D)f_6abJ6`1-J`+T)921V`$`p_u`n55,h:94bPcBaZ&!#B1?`24Q*;l5aYabS"),
    (6129, "沙`/>83M_nGM`'S`#`u3`2=&C-I'N>;`1ks=82ey66aS5bke%6C8d1盯c3em66bNgdg9d(4A2:6OeLZ09tea6`ufnFFa7b^Ca2c7VbhLI;"),
    (6204, "迅6巡邑H?34b=al=m53:09並`wTOG:D8bZ`u'`-C$`v'24$<J`(IR`/H9`0ei5:KE69a4a/a-46:-5?Bal4b.965LH88aL5:b39X`)T`223D"),
    (6287, "咒+-K`(<ME_g=Z)HgKax+*6/<5Oe/`t583GaY4P`,,Z,A45?.`,;V*e)<6a#:5;49an`u48a``1N(9=9dL936=-aVY4<08aO`w89aF854"),
    (6371, "忝:T/AG<R=`(K`2C=99'f26`q69a.a9:/2:.P@_o`o8.4`'L6K@%=`/`l_v`n58&`-YgOaXLa-Q6013C)F=,4cE5aQUA`#`r_v;GM1_w8"),
    (6452, "板A,I`,`l0`0%?k0a28Ob+?b_<B_]RP_mA85`m_h`q5`,C,?$`p%`s_m3`m1&`)a2$1Ak40;/Fdz8BGV9aFEB50bp6.C1e'aO38c)a-`w"),
    (6528, "直c0Od(98aw6bI6apf;g5a'6aibL`24F'A5B-<cuPFb=`13KG`)Q/20A@`2DE0jnZ初表rzcB=4c#:0<cPAk%@b3[63@5af`vaYC亟E8cr_s"),
    (6604, "侯GX(5E`-*Y>`2D_vY+5O+G_xe/a*6FbE,>:663ao915a;a9[Va0bhK`/`m2&%DK22$N:;`.3=A%5Ofwar@L:6`s`'`,eQ3569b#3`n`+"),
    (6684, "姨R`)<'CR1dUa):55:aKa<855b%0cd`m?1aMZ=aCE`la'Z4<83<4axB:<`0Q`lZ/1`+4`p661elb2a)**(K$FA`1=/4I-T(ft=aUI`la2"),
    (6763, "昭*>?'@@*bjcG_sU`*3S_i0a5+=_tD`*`mB_rNFL枰`p@2,joP:`vT<a7bAa1`n/N`+`.`l$0[98/`,_ya3%H(<>_xTjWF00:5B--dsa14"),
    (6840, "牴ad.8bmJ(.R**dNJY494aO0848blE88a/549a+/6H9*5Bbl`mI/8cx:66aa8N80bK9am5dgat:2@549fiaE`xa4C4;`lb7F,`08?L1*G"),
    (6922, "胤0cV`u苧S9`%/BU`(T>_h<QG_z/4D,CGNiy`p96ebUcUaBa#18gz9bk6a0cX6cc-3?2?50;by;*9aw6ark4be288cT>aQY=Eb>`z;bN:乘"),
    (6999, "亳d@8M_ka&6_r`x$'a%`*2/6`0=KK_h`w`1E6_z2a.4_s`t`%dZ`o84`r61<az=/>9bdaDW5a1cH`o(a%_d`0DK+Q_t;+`o`,33a0`'-I"),
    (7070, "圃8bUI./a5cEa789bN>;:3/_xa#:=3`.4dIc,^O::51>;6a;a<;2b4G5&5?=B*c9a.5ao91ayaP66b`A9`2<O3=LR2*>/0He@bCL.a>'("),
    (7150, "捕$;@1(M$$84`l6f38a?`o;al>=+F103bNS89cING5D`-@I_tay^[a$<#_VaK'3>`.R_m<`pix6`ua[;855bcai`r*6`&I6`)a)_xT`,#"),
    (7226, "浴,Z5&C`'`vieEC,&>dQa/ar4;26b&aVS`,)A+d]@656aT>9`28A64@-bj`lQ:8aJ-8?bXa6.H`,N:%?*6Jcb2G6.?61:ay6;/>:&bC;"),
    (7308, "站`tBd_b/-+6M9)3<<9(C9fV`la$`x3a4I4;5`m9bIH%L`/>I)2L,D)*c=6KGQ84;b&a_`n9-%O0#6R`*>4`(`p(.Ri@a%W`0H<`*N0ec"),
    (7389, "衷A823e./55@,D3:09fn`y6`o8blct`m92bya?<(@11F1?*b4a;3<a_26b#<1<4k)bv8519>+=aLf^bac;`wa<DA乾f3:`&`23@E&SH_w>"),
    (7468, "偵6:_w__aO5c.a(aJai<aR>64a*6A`m85at曼商[3`%Q:`)>`.`l0=_ya$_s-`u_oa&_oEMe@:5bm`m<3_y;M?`z_a9cfa1bkB?T;_u3`m/"),
    (7539, "婆;ceaF5654>a266aH38bA6?D2C&O`2<B:'bbaE54;ao856@af9WL49`s9<1@63bz[`-N?Z`0`y_v?-1`n`'S4(P_xY$d:8`td?>_j[C:"),
    (7620, "捷'`xI_fa'`'1O_oa,`#;H?B`-4(2%6Ier02?5啟敏@46a76HZ389b&4A;5/b2勗望dM`u*(Y_i.a*-'P_ra0`0_x6F@B.9`(h7aw`x8a.dJ"),
    (7697, "涼a&`-_x`v`2ON6B_a;`+Y`$`wR_^a.5_oDa7_:`lH$I>41`%5`-a1_r`niBG8*)d5a/;b2624=a]am<0:/FbjM8`l=a283EVa48`'L:"),
    (7769, "皎a55@aK>5199cp_wBcV:<b%b.:az?*H1*<GdK<5bH4`u紮B:;':H`2J'6fCaP3`y9;a9`u3c(`.D?5>+bu`z96:d<G1`'`q+`n%`./@-N"),
    (7847, "荷;8AXh5彪蛇0-E(H<`-5Qdqa:`1Z`.;.5cG3b2*=9C3)3>f^Ha>:6494bW6aG3c`;cy+D4C35*<@9&J+<0bk<GaIaf`n(4;=3jwbxB5</;"),
    (7931, "陶8,aC`q6章6頂8j.drdwA`mM傢`2/K/&M99最凱ap98+ad65ana:ee<`n_tEJ2`1QE`1*;/`w2(_>ac`/X(<_lBY%d[ca2A'C8'3:bp8aUcVZ"),
    (8009, "婿J@Cbc5aP1>4a)8`mcZ;`+JbMa7/::a*a;.89ag`xa+85chG_p;`qa+>_vR_zB0ac_(T`/J.IcL`qdA`0a2(`p`'4><H$H,N8_'am-("),
    (8081, "摒_'VdL?38`u6VbV9;90Y`0;0av8W5el_zB/6`u_yM00I_xW(`/9a/<3_ZHb+_,fz3:aJ5`m`za.84f:@S_lHa$`*_u<5/a/4_k`yO_^0"),
    (8155, "湯_dP$)N_yXb$_]_/a$L`(`u.-hA8CA(La'_Mcoa'3bM&F,cP'@&:G852#B9c<8a46ag0?-6=9b28Q4X`oabb5a_F:e-2:12b/66a>5aU"),
    (8232, "策'A9905;9d5=bP)O$_ua2;&<3E:善翔8a%a6`zbg6.=4`2D/E>Xb5A菩Q,L_r`,a5_U`u9:aR_R`-S__`x,_wa]_u-_w`r_lBg[as1K`.>@"),
    (8307, "蛐Ed`aY8&biJb<`l,@`%<J>,-%=3WfBX`tD.A;1<+:6@0bi23a<F%F.2F`2ct4;b7b)>3>1;bc*K,aT9aYa48E`-L&:.AjZ23=963c;;4"),
    (8390, "陽?8>`,Ia,;698`o:bqa(89bv:<1@2bX6o5A;亂fb?48I0%B;+OeG/=aQ>558a;h7@`2J`/E`2AI8B`2>`+8V`+d08d2*>6:1N`(X`$O'0"),
    (8471, "奧dA?:)66.F'h>=bt`ta?6a9a6aB9dS,a(_v_s`o`%?>a55/@(-*`-0`xc)8f(`r`'C:G&`*D/0`p`'8&dM`zHc&)58E%K,aegp_x$T`0"),
    (8544, "楔X_ZaA_gU:*,`mD_v=/f#`ra=6K`qh,D[`*C_mD`q5`'*[5(`m_d=`oG_u4DgyBG2`,U,G1`-P0`/Y%c#Oc$E16cp`22A6`*5Q98cY9"),
    (8619, "瘀'H(6@<,6c*8akG2/<M(9'@:1b#b7Y`.8+4*L9#c:<9萬禽aN5=+B6ap8bna8_?E0d199bu`-O'E_kfJ28?a&63bI9`u5c,6?$@</E8#b6"),
    (8702, "艇fr,_e+a3(<`%Z&`(0`s9=;_xfO5:b1Q,6054>8:;d6au,<:3<;`0B4baa6aw>8*:>N,`.a,_pK`/,C5D9_b`qf1`o6a0483%H6:c[5@"),
    (8781, "路;>'19bca@=,Cb,Jb06@&I`/P2.?66;$:bh<aD56aOa]W`(<:5T'P$`*L;/+=Rimc?38a'558`t;54aOU9b189.?1c//@8bL5:clf?e("),
    (8863, "鼎<D僧>.(N$219W`$Rahb(b'6bFakg09R3`-N):;8`0V@`0?`-ca5dF@<G.&C/ao`o49a56d_<:%69Bb)aX@1;89192`uaDca:bk?)94an"),
    (8943, "廖a#a+`qa8du/C`s`28325TbLg<_p3a?_s`.R_vM_la(Ec6`va%6bc=,i.C$`s$`l/_oS;'@S4`'V_yT`'e5:c&i/`(`1L`(a$L`)C`**"),
    (9011, "漢`$'N`r>1()M;aH_A_aL(_y`rh$<`+D1EbCaC;bECcS6>=4b.b$b-`-55Abe9b809`)dG`%?C-1c*85b8:ah6a39bI+-`1Y=.2`p_n4"),
    (9084, "粹;8c<,#X8`)`q`156@`/T-:,`l,`,eSa_85an3`tb``wF09,:aTJDDA`tg]->5_t<K`1`v$?J蒐`sL0gT`$V`.:F`+a,`))eYF)<6<`2"),
    (9159, "褚_teF`-I<`1K)H=2:'0@DeRZ6a658b0`u3aVcW5:5b'bT/;>-<;25bU6=aF:64cC?<J5`,O@C_sLi?>8196c4:6`x=`uak@a`X8b.9aA"),
    (9238, "餅>4bOc-8a%aJ8eA94eXanF億321;@=83bnbB88;4aUbYg[D50D,,`q2@T_a08g/V6L`0I24b^e+)G`1N3c%549ah8cw.be49ap/<5=4aW"),
    (9317, "影a55eP(>&/`t1+2J`p`0R`*U%A'Qaofr=A`lK_u?W,%9K`0S65&I$@HbY98cu4@4jI3_hPT2`+[).`0F:`/[d&5aEX8jPa,?_lL%`y`."),
    (9396, "潛T-W#-+`z_`^tb1(6fwD<.bEa4bJ@cQY/29c>b8@-<928agW`qbA0<<1d'1,G+N`.KdV4;41;ac6c>;J'I81`&`sc=cUK2C`$K(B2.;B"),
    (9476, "綞a*P>dc9a'a)a,膛88:15jV`m`$_sa-8`-5I5*_wa(_y>g[)9`1=I'(5,>cG9bJ.B89,eAM,4_pa%`t_YN04(`m.`0:YdX9Uac5?5?8,8"),
    (9553, "賜E.b#`y;aw`,D<$Q-94b3aR5;A4;)9>d+<1<AbP41AaE99/d)-3`z_aa'`$)@M,`p_ai*;d:989aF`t5;b)A(b.aF@6=駝*F3-;4>bua&"),
    (9632, "髯a'U6`z/e&:1e5LG墨齒儒=33<aZ`q`zbK9aOj=IE'2K)54C54-Kg*4@5b@e>Na3agUikgG`&O`(a2`0?C5aWgt3A'8U`1:2B)J9`1bMd9:"),
    (9709, "暹B:(樽29VI$`(BU6`13%`q`0cPUb%k<&'Y`(T`-CD04'1KfAB>9-D`+LB:`.8e3cs>,>6a3`q8cf;9bD5bR58=d*)I2bVb>8/=6a^c^a'"),
    (9788, "築R.=?4c.8cs>.J?26#>dPa(a-84a)dr-6aBDa?8hxF&W8_y=[4+螃S6;`2bkb`?*=-ax3d'K(=F`#B>G:8,-=:=dV9`maPd7$:E.3cE+@"),
    (9870, "輳ad5bf6;1A5bQaMduM_aa*3*_y`v_xM-M2+P`2h)c+89`ra(:<.=3a;8A`yb/?:3-C`2c+O-4=0bj,Fb^;a.)a*aXdkE:9`1@eL3bPF優"),
    (9945, "償9HeRjp)G,9?g%554gA11aEbT`xd;5:2bJbxa`fC0<V`,aV9gy3E?G-=<(Bb,8d=4k)K'U1a._g_zP0GbSaA`s`ukOP%82@>;_0a[,?#"),
    (10021, "濮9f./F/6?6?#aDHci9cv>-9e-3Ab5b`.=32=a1cG:12Ib=:bDaWd/=(0L_sc?39;41;d8G?(2H`/I+K3*<F$A'cTbF@ad856;d:4.?5"),
    (10103, "膿5C,`qXaWih_y1U,:R##X`)btd@H`)V+`,G6E:dW2E+<a^dI@99&M4`.Ccp5a#av:63:bDb8949c91;:1d'5>485bPaY25e@a$_Ea<"),
    (10179, "鍊R`-_laU%&L`11gU8835c*>Ua59aq`zaba_anbc5e>46:du;d3a3F585aRD叢h:Pfb6g?lLgea?hH5C?+83bWcda9jd0N/4A#8bGPa&"),
    (10250, "瀉9*?+N5f#891df5cqOaEd(91dR938d9b7bJ85aS8dM3:+<5b]dT8@3>(>c.bH9ak6d>9a*kD_y[:0`.A6$g(4=%e5`sa1csH*6cdbL"),
    (10324, "蹙A:52-aZax;cy3<cb8[eS-CCH25;`/94ft91<cL149:a5an:>a;aC949<aVas85(afaXbJa1:a866al6a#_j/dxC:dga$N儳p9fp8:iB"),
    (10399, "龐廬i5<66i:Fe`4l//40og;@):/:f%>a:a9bm9d*DPb;6bp9dMd9b/bQ5ed80<1@fb9C'8cZ]=d*:6fWl8+D`2F8If;A?#<dI6.?erR3("),
    (10475, "譚+8.Je>9dY-L&-E1bw1aNbt8ce4fj'E`+<K80C`2BC*Hf+bo`va64a)ajVaR1:aPax;bd:c3br6&<e=_wH/9ce<3X勸k/F65?f_g;:a)"),
    (10550, "寶eblV9iM3<曦a0kDoq)9emdRd;dz:hH;96e+`vd=.Ab98辮繽6=babKeib#jl5O`0C<3:fA8d6aEa-d_31@'Ce35dc/;4iaNg,`21esd6"),
    (10619, "飄b%6aFar<>5em1gKa+`za6`w;5儷8pP69g1j/dHlV9iN6ahd;l9@-bOmie^b#ff5e$dQmLfv4corrM$f@665d29a@eF:=e%d^:5bka?"),
    (10684, "醺gS<9<510eFd=80bdaW5c1c-545b(at4bs/dq<E-c$aA`qa2A8儼6pT96n-g45dch8iTqUaFng>iWdKb=c#5ivh46lF6dIvJ4b$dke%8"),
    (10751, "躑9beevi+D8hr8at5bAc)c?/ata7cn`/D4e';dDa'5`q囌tqlQiR?6eQlK瓚q_e)69fe:5j%m%>f)j0o%6kS4;i3cFc,c=83ak84dj:6dv"),
    (10817, "麟aD囑fO攬灞r*8dLv0a'y]:`pi`6;艷贛mth1h_=3aqbAf&bZa%cFe)8aq8aya_2廳欖ol籬9蠻dlnXiOh85l(c,d_a<k(灤v-讚z4j)gx:纜讜i=iJ"),
    (10881, "鑽85wZ8g^豔x2鸚爨驪b^hq:籲ヾ_>8^^a+!rE!uД8#L!&>!2Sж!9①!)B!)"),
    (11304, "乂QjpcdaW万<a*a5xQ\ufa0c屮i4丏jO与WaT`v>6hWdKa_a<j>er`phkf&wAqAPa7rB丱BbC+D/34iacO`wkU8f+Og1:b%`pa(6dxak9d.fw"),
    (11365, "扐氕XD33s29bqrEt9阞伎AK_hV`$F.HL`,:T(('Uh&aQ->b-ak4`ua,alha5a>3Af?a33@-:0?efbVGaF58:dHb-FamOaIaP62gl9=4<3.>"),
    (11441, "扚Bja6d726:6<4.氘`uCA*2A.8lLf$aE8bpe+d<kunSiV;;49kMi`u*58:0pU93:佖`,`n`.AH_y`p`2D`)N_t=CYfe`qaR9:b#8aJaIFS"),
    (11514, "厏b8>*`q(_s:@*`lI)`.3Zh.05aK;>49>eCa)aU)?..K%6O1f$;b-9aR90:5@/3D9d2`q;al5:3<agOaJ5aK66T2=<%:6N,?;<+g%a8@"),
    (11596, "抎8<*`1A6-H>&=,9hJbP;66:d79I3.3L'D(mTa88aM&;P>;`)51`x_rQE>_iD)MJke=exaK5=:20Bbg9385e76aJ8c+hCt^aP;.9Af+6"),
    (11677, "芅@:9.08豸j(-bw9;0@0pW/>5丳dL`+@/:>&5L2*_ta:_r`w`&?.OC/A+'J_u:fgU9af48J`2aza=8`xaE9c2/9G(=`*F;`.>?)`n`))6"),
    (11756, "咘_j;4gr9ae:25=6=A,=/8%=Ldva(a_<L6`+Q,,=>J_zC:?#Je*:`u9bF:aV-3L10;*;A,?4-?H1-dX4<cN188`w`u36aP>a70*P_x`p"),
    (11839, "怊DS`.;E-`2:U`,524Jf/`pa_>T$#CK`+<3C%>?gdaZJa=*?E-*??9//K6c%Kaj`.Y;`+<T%5'P6%`l)?`11;.8RjhaJ5aOa.aeaH6:"),
    (11919, "泙`$U_xa)_oP)/@:`n<`'B_v_uJ`*aM`)a__<1`0a8_uQ`/kB;$E*5D<#O`0eva[,D(J-9=)<bj4C035C(d'BaF85a=CcVa356<cB;49"),
    (11994, "矺4d24aubJ:aodaawigaIV,L4/dZaoW`2&5:Q)>E`)S1+0?P`)V*#kM658qWjS0?1@69br92;4pP;65@俍/E`&N9-J?4`)/`o#F`+=0`z"),
    (12074, "剄<af9aja.R6:6ca`.C/`q+茍咷.`o`'F8_y_oa;`-S_Sa[_qi4`08<`/B=50;.AC,2dFPa5b%4GI(#T:61%E<`+EA9`2U-0eJb;as?+B+"),
    (12151, "峛:3&5:C48205?HPc@`o884;b#+50?9aQ`n`o`wbH9RU#`.E+9I(+9T_dWKE?ec8b#a-5`1P,`/EM4#5AJ8`-R`-,g09aVLaf`2H:`.A"),
    (12232, "昢H/F`*N<,bx8bH`x_u)Y`&a,`'`/.E`m02_uO`-a36/,`&.LP@_aa9_i`n`&`)a',V_n80`n`(j4aI9`yW9?a/8cFC0)T:_r/_oaH_p"),
    (12302, "洙X`'.&T`l_^NV_kC`x_fPC`#Q`.>k&`/V*6(J8+e'?8Y;:2aKQ;:+B34b9a6-=4+466a&_s?.<:)Jc`9a/P8aN:bfa:a3288<$;6c,8"),
    (12382, "砆B8*B6621Gcv9616b(/9>/bI5aB`v8d`58=88aq<0g6a(3`xa8>8<Zb8&P(.1E,U-:%B+=?F`.cqYaba4`l2E`(O_taT_P`2U/,H:N&"),
    (12463, "苶1113Q01ja4?.e]DP:6dQ`x:jBgP5D)cP_k9M'0@;4cK6mP299.;倞`.9CFE`2_y6a.;,_i8W<;>E19`$d3a)6a&18:=b*0/C8-DaZa0"),
    (12544, "厞do_[a$2_tC(a%`,<;`*`m+#P(38`/`u,?f-8baaU_B4`/C.635@?@`0?d4a+bf4N8`.1?*KLcxa*=6aFaB5b/J&:=@0co6ao=39av4"),
    (12619, "彧c54D_yaP`-/I&S`-I=3'L)dr`tbCUa5_uO8(Db8^LI6)$O*[3<_sQ#`n.`.V`0?f93ao485awL`/AbX8cK2`v`08?G;_fR`2P-99V-"),
    (12696, "栴`0,9I9=V$`22i;:5;:a(肂殈aM5;26<a-d<`08I_6aC`x_eAB9Y3aQ_/>_w@0a&_xC`*ZM_6a(Z*9;_1涃/9/Rj#.5C%缹烢,2C9+0/88J+"),
    (12777, "烡dHa%66ay11A/4?=bi=C(`-`r3=*-@0@448Gc58L8`sa);a@H1@36.;bga.aC5,:6H%;;8?<c;@-J10=4-?A.>cb>+D.66b18+E64)9"),
    (12864, "秝b@:3=854a@a'+F)A09;2@dYD093</b06+4A54C*44g/<4945a*3`x65aE`o2bX/>3C1<c@`u-cM1N_ta'_s`x`09`,-=WC_lF`%a#H"),
    (12944, "茖E3N/1U5>>_jEV`#Xi:6a?=%.;D`0G&<F`2W+?=%:-F*;e>8`p?83E(E'K2-?e%flG[`p6bj9a,96cZ9cj.D43@/1bwA08@3=*:3<?"),
    (13030, "酐58auD/mQ:aLf^f3a?乿f(1.49*/IL_u<+Q&O_R`wQA9/8`)1`u<`+1dfb2969aW4aIa^eh8_eH:`+-`nH_s62Y*_f`m`z`0`2F`,E<B"),
    (13104, "圊4c3P_mK`-OC$GB'J`/`#a'`.,F*>,`t%K_vQB`,/>T.d?cC/4I._y4a'`*F=>`.H*#Q,)N$a5_OF#J[0`%A<#QcU3aB6b0崞$I4=#S"),
    (13184, "崍P6`1X`)H3FcO-al:<08ar9aR2@c*=-a')AP82L,;`2`0`q`#J,;A*gQ`z`l/2a/`(F'1K`*`(O@`%a0_e`n_pa0_m`o_6aS_xD3G3"),
    (13256, "捰eraib/315:=bMdHE@C_p8a/4bB]ha#@4_k6a-`$`/R`1&>a'_u(DT2,L`0R_s:M25*h@4;8aH5585b5e%`2@6bX^/a,0_ta.`%`s_g"),
    (13327, "淠6.`/`n.85P_u*`w:_iR$D1>Y`(`q_y-M_winJ`1W`$O`+K&T#:>D$/5L.CdW48:b51'A>)5.GFaYa]94F43A019:D6`0KdC6aZ;438"),
    (13410, "痑6bV1a9aU-5;896A`/M1cRA.;49_yVBcS:980?-aIa.558b/<3b<I$(B)9F`,I*K199:=`)@dX;5Db)?25;B`.4O=.8B($fr`y>85`v"),
    (13494, "翋9:8-?1aE64`s3<bgD+9I)D):+I-<c.`n2>15a1c[J<`,$0`x_oR)K;`#VL_s=@H5F`(*`nA_xFP_n`n`(`n_g[hF4aX/B6;,-O(1<K"),
    (13575, "蚴>8>18e#a&CJ1?'.G50F)93D?`'>2c3aC:3aJ.<)fR9X8W`obo55a2=.=9cV=662@8d*`.=B'Lbe2=;58`(N84酖9909b.?49<#L(8C("),
    (13662, "釮jcC9c3(5=5a?bBb1bxbI傛16A$O`'@9F_ja#-'<boadd%6b*:eyN4?_ibe^T(,>`m_kY&I_xFQ_xMC$de堩E`)<@3<_laB`$.6OC./B6"),
    (13738, "堭6Fced5`,B_z`o3_y`u_u`p>`0P_(a<=D#?U_q9FG*;Ad4`*5@40;a-[cFC`o_uA+-S4>`%>O`2+`o`0.G&;-;A<c>4cVa=6=c]'JM#"),
    (13814, "惄a?`%OC&'U`,;9_ba1L<*&<>d&d1T6UN:>_sbq^M_vMM`&T:a[^u`&V6`/K2&<<64`o`.9d@a$:1/C4`nH8GY9bA'F<(?(?b&fB_f`x"),
    (13891, "棜a=_a5>U_fX+0IT4`*%`m_da+aW^;aL`%_va=`+_w`t6#Z6D_V1L8?E`$a$_mL`sG_AgQ9;4aG:93`o`z98a,e[a98_w`qa._S8?T_h"),
    (13960, "渿9SM_HNO,H`1_g`r`wA+<_o.a'H1_m`0EZI_aa@#J`%[_xK_n8[hM5H_k`z:)94G$@I`(coF`u846=av0`l)F9+B204I_vca5;2`2;>"),
    (14038, "琭;*61C.Ib`a#a/4aj*><.9<*bU4a7a[84@/<;48b)Eac;8.H;0;906-;cQ665b)?0@/b,a<5aU(@;;9)O$dD3A0bNN+':H:`,U&F`.9"),
    (14123, "絩`/E&f'8`m8a+58a%ai58bE_ua^>?4/-G$bC?@88Ba'89a%b]b+`q`q_<`o`q_t4O1Q_U9Z/`#a1`#?*`n`)`1:?V_sa/=_n`z,_[`x"),
    (14193, "菕`l_lAP`p_O`p9_ua&`#Ba(__ZhaA;$G.G*E(G4%H`0d^E6aTT`)6?5/=2=,a>_gbc:6a548ab6#W`.N8#8D-@09:fGY6a);)@3bf3@"),
    (14272, "跘211F=*=;&F%ci?:6$?.G)8E,=2?,d+>2bn`m_w24C(9=6>55aM:2:5b8@R`%NC`04+I$5@5Z_zQ?,5%Hj<I6;c6.A814a1=2`u6ak;"),
    (14360, "靮b0b9a1kzfJ亃8`yf>9>`/M=`1K1%H0.Q5$9c^b:5:8ivO(;26J`*K'`l_uJ_Za1=D+)`q_zC`0d9d&L3`253`m`-0F3C-`)`mEazeZ4"),
    (14434, "嫋&50;2F@*B(@A`19N#_vd-98a5Kd%)`.RD1)A62b%aN63:5ai>1<3aha^5d1aA8`(Q(33O`0W_yNbw酨戣96e0`s1`l9.N;FG`#-:X5`2"),
    (14515, "搣`0QA/P+1_zG`m`,9`+`#a#J*$dHZa0bJ=@226F2`+b?g%0_xMKF_m=`l_n@L9X_m8#a&_fA`o_*aw_[a$_v`v_t`y`)`0`z_w&G#`l"),
    (14584, "楏9`(W`$a;_`fA656=0aI\ufa0d毻8458h*a*)_f`x`&+8CH?DC`2;`$`r%0T_x`p`*C<P3_`036N4U+T1_lN,h+D5H4`(S<G=).`(M`2"),
    (14659, "煋`l&(:(@Dc4a-6<65bE=06=A6c:=8>6=`0F85+;>>b$U66WaK5榃痯W++>546O`22.??b3S`oagA8);;F5$<Kabb>J12,H'8R`)-W`.M"),
    (14745, "硻c@=23b/>80<5D(?,b*63a<aj5@>,@*E56(N5$d692bp51D)=,K$?0G?'0Lej538;a)69a#8a4d*3N`,D)>G朡腞O(?_tTbS`s239:h3"),
    (14830, "萿NW:M5_w#&a5`(_hT`w`$6R6`1bA^N_x:1a5_ha$_YJ`+_Oaa`+J`2`yH_hL5=TaE_h_LC&4a$M_e`.a$+Q`)hB0*L%`#VaG_JM2/,N"),
    (14900, "蜅e`,98G46);bLMa3=64691Ab'G0`)`%a'B9(E5*=eQF6R69W58a6b38`o2985=839aM'C<4`)P16<B0@cQ096<981@d.$<<+bj499<5"),
    (14987, "鄋:aO8bpA`%A`s_l`y0`l_JS3`n6`*H>?_f`rF_`ZF$Y`#<0A`#jD494c685=a&`s:24am;81b458b5a9:bM:5<c75bGdv:1e(al僦%:H"),
    (15061, "僳`/F*>&P;6+4c7b?8aW9a4akgZ%.=`1JD`,I&/Z`.21go*K?%25,N&DA4`/C=*P2a^奫dXI.'L'J5?&52H)63F.b/aX:aoc^54@+>-J6"),
    (15146, "嶈-5H#=bp81at0=.E0;09a_6`sa6d]3PTJ9`&8V1K+`'`m`(A_u`v.,bj5;f7YE9N938A/(a/_Ga#`#5&?D'`v__`t6%CIc;`tc@66aU"),
    (15224, "朄Ugn<J_v`u_gQ3G_t?,P`-SL(G<0`.`w`,H_oa$`+`'N.4a*_]0`y*'Xdk:5aB88Z8a)hW`n3IY_ra._c`z_za4_j8D(Z_v_zT`sa,"),
    (15294, "滹,a.J'C0_US>a$_a/0a2`*`'a-`,%H`1PgE@0.<4D#B2MbDFa355bGA;2cUH5;4,>b)98aiJau);@30Ab;b`2@4#I&F<cn/A02_u`t*"),
    (15374, "碥2C-9c3)8B666;(A5b2V`-605aq:8a1b1K%>6=.6F*.J劄箙B`%cx;45c,GB`(>N6<_w`x-9<8`*A`$`m`*>?2/`oe9a^890a5a(6cl44"),
    (15455, "膇=66aygaD45RK+`194E2DC`$'NV_lAK`.)`z<_nE=0`u_aUP_pa&45@_t`(e_bi'<a2_t%':/9`o`0L4?_yI/:F_u`o.;D`+8H#-M`("),
    (15533, "裷'A8?;'E1<,36bI;56a:94bZ%)>4>e6`r8a[1?bVab04E'D0;6609;cK846fM0;9454A41aN/>1cq6_q`l`&`m+M`*P+H_mU`/[a:_?"),
    (15615, "銂JD_zBP`03=DE_v@Y+%_Am@:aMaH`l4;<490@45a>6a8b.8aC5>b-6`n-96?2Ac)`y;aF8X85dy8:eA僿;`t_gE8&?D8(Ddh8aT5j01A"),
    (15694, "嘵C@64I9`-*A&I1)Gbwdx)K&:C403aMf7,@16D,A.?=5Ad?cq5?*G(9B3<0;bb+:3緳廛::aWaXeh/-a'6)`.I/S5)*O.#_xa<aifx9`mA"),
    (15779, "撅I<*369N3_ha8`.bu;69a&8cA20@<*<j(=H_mJT`#*a+`&$-a(9`(`p_j3`m`*'aH_g`%LI&&U2KD`1`.`w`($YczaC56;aJ66:in`,"),
    (15853, "潾@a._k23:_u$a%_ta+`'-M_rT`'5>a,6_i_BaPAI`1`p_ba'`%MM_mK*Hfn4#L'1FC`/?0=4@)BCc$9bU1C8845=06@cd98323?:+4"),
    (15931, "甈6afb>02;6>.E*ap884c1916d,%K4<4=+28<bh>63=0歶稹ah96cCK*%Y`(AH`2cO:;6ck`+F4'AY.#G265(e&a%;4a/56919ak:d#36."),
    (16016, "膢.5ana(;655:hZN_s(`p`,2;I`2T,`&`w_nE;`/a%_gZ`)+?@M_w6`t`/`q,H_s2X_wa*,_`8?6AV?G_zEMcrc3D8JaY_1`,3>.F0.D"),
    (16091, "蝭4`-5H5I4E+%@`1`s1$<9c0bB>?.C88$G242b096a9:3bz.)R5:8`-S`.9<J`2.:SdLFa1aE11F):AbP3<1at:96A`.=22?D8$5=2@2"),
    (16177, "踚cQ/+9=:*8dC46/;b[358?+?aF8;.893d7*83P`$PY%0H%=&Z_r`m`)5=O`.?+N5@`19`)`s`,%hO`w6:9c35`x`y:1aG`w;1a76a>6"),
    (16257, "頦:6/2CazaE)N:985b^(9;812D9*C,c&a(6?66aD4[D4,G62/3?dw5:9/G009D46dfa?a+8儜.;:.bdd=bDgn'E<*4A<#Pb<6e<,C-2?1"),
    (16344, "壆g099=*64=I)=5bheL</5E2535A29<bJ85@ai5694aUa`epB%`v&I2B%<0_siz6161+_ka)OO`-aIa;4`mce-9A8;%56IaFi@`y`*U"),
    (16424, "樲a%_uVG@`,-_v`y`(;9`p1#6<R1.`#Y/6/8/cN69a@:8T6a,6:k&U_w[,I1_5aU0`(`s`%aK_@@C)5`l'0`1`n`)Y`):5fL440U`18A"),
    (16500, "燔-4?%R`+AK8bY8bb48<0=6cTR=+5:CaYadbF5;C-@045az`rbK:;26>8);5d-C3<+</=8B)8b[b7;6a^943=cf<;-/G,EH_zM/1F$>"),
    (16586, "糒9:08d(F-,J8*2E0<?`0;>.>H6c^a'85a&a-a*6a2d,,?B3-<3?5<'a:aR88i.&`m`)=E.`/=U`$X`)D-S_zTM`$W>`'I0`s_y..H>"),
    (16666, "虣96cv+?36-0L9`(ES`)B8C`.G?5&e$?A480A(>1C4*bic.9G98`/a&_o2H_wM:>N'Ce%85aT0:6:ah9a&9b#B1?<(=8;&Famah/>4>5"),
    (16751, "輴d):9Baca(98aL4839e'.`1N`.@aZ_];`&?&&a4`.`(6_]aA`$`r%`-5a,_mY_z`qG3,`1/6*B.2Rh-H(283@-?c+`ra&>5ax54aK?"),
    (16824, "頵1:c12?9ada?506C*>65bi=,>a*;65a+a<<9,94>H65`1R`/Be,)@5-L+2A%@=dP58`n6`o8[O`r儦6493@eZjv080562;49g452:g:/"),
    (16909, "嬲(@26@6a<ae8eTbL5d;4f?)>`r0<6;-i@11?0;b06a%[c7k:@`2[`+M3=4`0C2>%`l3$%`n+`2>=b`aAaKkB`$a:`'F0H16/K`2<=f0"),
    (16985, "燱.A)C)dx28cgR0`,Q:;+AaP884adbV<85aLa4bc-><654.a7cBA<08-J+<=b>4bK6293=aS98d+A`*E63J`-N`/F>15.<@`18V1bud,"),
    (17067, "縼=(顈縸)V.>`)Z`+B2E-cJa)66af5a)dv@?529,`taa69iV4FO%B`2O_w`p-;_x<DO_x5`&a&?'>C;`+X`'=4+4Y/Fb`d=#:O`23D3>)R"),
    (17148, "蟃6A`2/L=`19@0<X_sdj5@9:H`,BaZ96a38cj152+=N$::)=25M.>ctX965`m6aTaebv6=432c;4d,0bQaQ?05=93:f8`)`s_T)(a$`#"),
    (17228, "鍜Q_r>8FDY鍌UF`%544Y=;`-4<;P_mBgM0@19)c693ac60<3ap>296a'6Ta?:=635by=85@645;6aWB5aP/1:965<985>bRa/6;2a;aAE"),
    (17314, "鮞4B2;6`)S5FdkE`m_n/89>/L4820@4翵鴭dD6;ZOIX;`l66`ya;儱38p1;2::3h^e[cl8d=bD8jA>E8:0=2`2JiE<02@90b/a6c>84kl+;"),
    (17396, "櫡`,+38G$0bHaZa1l#<8+;F1(82`r_u2Jf.51A1d`d)?,C4/<>aA6d0?,.:;:a;N`vbm/d,D>8,>96b36bJeLD'>6E'@91:Bfc+=D,A4"),
    (17479, "繑F.3dI5a38aldC85b&6j-I1:6(9?A42C:14#<SaA_36>bBde630G621K('?.Q`2B_``z9`o*+,d]/;41A8/ep43G4<I`/D9*+I&G/-N"),
    (17565, "謽4cG`z[66aV=55dC=5.6?>9+6>3C`2c188:elI8:aY49?2fB_v=`l`+9#U`.S+?&*H=%[`'X);C&9fd85by[:巂雟0<a56:av91:0=/:"),
    (17649, "韗949YaE88aUax25bl35;.D0296bQS`s38[CL96ak6439+:R`*E,;e..32H'E4-B29B09cs5aBY6MF=666[@儴8dHaPbTi&908:9fe:5"),
    (17735, "夒fb88gcbDd6fsi;@43:9aeaI6c@l00#<?)K4+R`+5Haqa?aKl4E0-L-88=%D/Eeq542:b78565fa1)CaBd1dP81`tck5=22>b)bN8eZ"),
    (17812, "簼4*FbH5ds6:/>/B/9+bz6a(:`xa58aidF5b&49j_=3#?>)4L==`'>;0,V-@&;fU1@*8I:62-C.B/dG/83A23<3`v`v6a/dA/9-J:5.A"),
    (17898, "譑(G<c+a#6[a[89b:5:5bYB2.<Ca6b'658:aPds6a`4fh`0?*O-`p*`'D_oa,`+AQ,)&A)ILe%aL8cEa79835b$;6`n88al4;1aW55:"),
    (17975, "饈63aR8ab2G/>.>5>325/bEa86;5`rbJ8,5=93E`+:L'4C'C0e,A@1;`0F/E<8(%@820S%?>$A=?`(ck4`va+`xJ8C@88匷jR:5fggAg`"),
    (18060, "巇cf8bh8foiM665bccH28l6415H/48ol01?44H->26>2/Eea8b+bl6d%f(6K`vbv985`lcr5;83<axbS58ayd96945b@dt::6cya4ai"),
    (18136, "臛5`yaL8k8`$94T`,-E<3>(fS.8=3:d4:aBa-dPA*B299=fxbo93bl485:9crbM5ae548g7?`/`l&<`1N2O(+`/B.G>?3`/F&I,4G`1R"),
    (18216, "鐆eg96d68ay9a18aQ983aQ8b%5B*6?bv9425C*<A,b1:3a996c94&ED`-a7_f>/H4,e%1B0,=/B<+?E$A0?=-<S`1$G8c196a:6:6a95"),
    (18300, "齛<563a'儺6dF6lS18mY6gc;cai;iMqV1>,?ob8=5838ef46dLe(d:dMdD;5iT6b6e'48:2>bWa]ade<lbI30;04E>*6@,>f;+5<;/FV"),
    (18377, "襭3<4b&df6_la$8e$;b2bv5bi49ex58acge32*K6+@(D,K(eC66d9<atYaraT41b/5bz;@5560<b%a7985[Obp)6G.<824e%6=<=:<&>"),
    (18458, "鷃/1P`28)S`03V`.Q`,b_Ya>:6`u49NTN6`u亹wl6=h-ei8gh3c`rF6=3qX48cClo882e[8aybmd@4;5e%a/gganbS8eu<496b14e/bU"),
    (18530, "羇g6b$kH850=;f-35;2d3a=6a,dj=5;61e%dg6=/5=8b`9eti4;18;/5:84i(b;av6aQax>c2<8/:096@5aoa8IGR6c09.<,1E2245B0"),
    (18611, "鷛.C3(<C,EA'65V`'?bpa)a456G`p`qD儽dCrf6azejgj蠯彏h998iT3a`d<lM84bRm`6eWdG69htdKmb6ffkVkM=0:,A:f)93<d*56azdu"),
    (18684, "讎44bTbkdfbc6g8h-*?1>j=8a*g5:鬞88cq=/1:5A;*9e<3/+?D#I`2D/C5)A?6,<blEY8JMS66DCY658囓1mPc^yoeO8lLok93:eRh?A"),
    (18765, "矕dJan6h;fdc1hkkUf,65Mix8i8884iP6<h048g[aP4;aoUgXafascI;6339e13@3:628?-5>b3am`o`u88囔攮ayp'85:ogeSasoM8dG"),
    (18836, "籩9aze35:5iv8m488i`896ase(8i;66q:6999h]chc,i8=6e-9:6:6b'aCKa-`x:66圞灦籯蠼p=c3iLh8;56qZfK65;e.6bzKb1灨4糷虪ec69"),
    (18911, "讞c=fDWy1cg8aGb,a9bP98bThx9cp戇zntp虌xcqI58qW6b]hr爩虋osz;wUfu癵驫fFe2灩8麤bq_ja>")]

/-- The signs for which Big5 has cells that not every reader fills. -/
def big5Signs : List (Nat × String) :=
  [(5050, "╴"), (5121, "￣"), (5123, "ˍ"), (5180, "／`t"), (5287, "十"), (5289, "卅")]

/-- What code page 950 has in other cells than Big5, or has other characters for. -/
def cp950 : List (Nat × String) :=
  [(5029, "‧"), (5038, "﹑"), (5120, "¯"), (5153, "～"), (5168, "⊕;"), (5182, "∕﹨"), (5185, "￥"), (5187, "￠8"),
    (5465, "€"), (18956, "碁銹裏墻vN粧嫺╔I(@C..F+,I(@C..F+/I(@C..F+,6T896[")]

/-- What the supplement of Hong Kong adds to Big5. -/
def hongKong : List (Nat × String) :=
  [(942, "䏰xI䘃_B_q𧉧䵷䖳𧲱䳢𧳅㮕䜶Enz0𤊿𣘗𧍒𦺋g&䱗𪍑䝏䗚sj𧱬䴇䪤䚡𦬣爥𥩔𡩣𣸆dB晍囻"), (981, "綕夝𨮹㷴霴𧯯寛𡵞媤㘥𩺰嫑c%d,杮薓𩥅瑡a+"),
    (1099, "㇀!$𠄌㇅𠃑3㇆8𠃋𡿨㇈𠃊㇉!#𠄎㇍8ĀÁǍÀĒÉĚÈŌÓǑÒ"), (1134, "Ế"), (1136, "ỀÊāáǎàɑēéěèīíǐìōóǒòūúǔùǖ999ü"), (1165, "ế"),
    (1167, "ềêɡ⏚8"), (1256, "𪎩𡅅"), (1259, "攊"), (1262, "丽滝鵎釟"),
    (1268, "𧜵撑会Eaoe=U`oa7bT>b*Jar>i9fEK:`r9fia'8c:f#eDomgT=aPn`jEmH纤?ED?G`n`xiraDb7rnf/[j[8>琑zBbh楆竉刧"), (1329, "醌碸酞肼"),
    (1334, "贋胶𠧧"), (1339, "肟黇䳍鷉a2䰾𩷶𧀎鸊𪄳㗁"), (1351, "溚舾甙"),
    (1355, "䤑马Zo)禇𨑬𡷊𠗐𢫦两aL6>a'`sa;㑌侽㹈倃at㑽MI円v6凛X@争koNb.㗇厩㕑厰㕓参aP㕭<cN咓GH<NV`pB<㖘唿㖥Q嗗㗅𧶄唥"),
    (1416, "𠱂bj𥄫喐𢳆㧬𠍁蹆𤶸𩓥䁓𨂾睺𢰸㨴䟕𨅝𦧲𤷪擝𠵼fo𠳕lF撍蹾𠺖𠰋j0𢲩𨉖𤓓"), (1449, "𠵆𩩍𨃩䟴𤺧𢳂骲㩧𩗴㿭㔆𥋇𩟔𧣈𢵄鵮頕"), (1467, "䏙𦂥撴哣𢵌𢯊𡁷㧻𡁯𦛚a+𧦠擪𥁒𠱃蹨𢆡𨭌𠜱"),
    (1487, "䠋𠆩㿺塳𢶍"), (1493, "𤗈𠓼𦂗𠽌𠶖啹䂻i."), (1502, "䪴𢩦𡂝膪飵𠶜捹㧾𢝵跀嚡摼㹃"), (1516, "𪘁𠸉𢫏f1"), (1521, "𡃈𣧂㦒ac𨊛㕸𥹉𢃇噒𠼱𢲲𩜠㒼氽𤸻"),
    (1538, "𧕴𢺋𢈈𪙛𨳍𠹺𠰴𦠜羓𡃏𢠃cu㗻𥇣𠺌c@]l㾓𠼰𠵇l/𠹌"), (1561, "𠺫𠮩e.jOal㿹𢚖搲𠾭𣏴𧘹𢯎𠵾8𢱑;㨘𠺘ff𠼮𪘲𦭐𨳒b^^(閪哌苄喹"),
    (1591, "𩻃鰦骶𧝞𢷮煀腭^v尜𦕲脴㞗卟𨂽醶𠻺]daWas㗝𤷫㘉𠳖嚯𢞵𡃉𠸐aWf7bg𨈇𡑕𠹹𤹐𢶤婔𡀝8bn8垜𠸑𧚔𨋍𠾵𠹻𥅾㜃𠾶eY𥋘𪊽𤧚𡠺𤅷𨉼墙剨㘚𥜽箲孨䠀i[鼧䧧鰟^e𥭴𣄽嗻㗲嚉丨夂𡯁屮靑𠂆乛aO㔾尣i]ab㣺扌hp歺"),
    (1680, "氵<lYeN丬犭𤣩罒礻k=g9𦉪㓁"), (1694, "𦍋耂am𦘒in卝衤dD𧢲讠dduwc2>aX𨸏韦b&aHGat𩠐鱼e2b<歯\uf907丷𠂇阝户钢"),
    (1727, "倻淾𩱳龦㷉袏𤅎灷峵䬠𥇍㕙𥴰愢𨨲辧g.熑朙玺𣊁𪄇㲋𡦀䬐磤琂冮𨜏䀉橣𪊺䈣蘏𠩯稪𩥇𨫪靕灍匤𢁾鏴盙𨧣龧矝亣d4bc丯c'龨吴綋墒a-𡶶庒>ch𢜒斋𣏹椙ci𣱣泿"),
    (1796, "爀𤔅玌㻛𤨓嬕璹讃𥲤𥚕窓d@bne8m[h&龩袐龪躹龫迏蕟駠鈡龬𨶹𡐿䁱fh娚"), (1830, "顨杫䉶圽"), (1835, "藖𤥻芿𧄍䲁𦵴嵻𦬕mx龭8宖龯曧繛湗秊㶈uJ𣉖𢞖䎚e+"),
    (1859, "峕𣬚諹屸㴒𣕑嵸龲煗䕘𤃬𡸣䱷㥸㑊𠆤𦱁諌侴𠈹妿腬顖𩣺弻𠮟"),
    (1886, "𢇁𨥭䄂q(𩁹㼇龳𪆵䃸㟖䛷𦱆䅼𨚲𧏿䕭㣔𥒚䕡_Yxu]Ac:䗪㿈𤬏㙡䓞`&䇭崾AE㷼㠏嶤L㠠O幂ajaWaM㤈C`rE惗aU峥㦉憷9M㦸戬aSaD`z㧸嚱㨃揢PCaB㩋擀崕嘡龟㪗斆㪽旿aC㫲暒㬢朖㭂枤aK㭘桊a)"),
    (1972, "㭲6A椉a)zp楤a*`-㮼槖㯝橥F4H㯬檙㯲檫AVYaza/`paza$㳋洂;WaJ㳯涤DaS:HaL𨧀溻`n/齿滨8a*G㵆𣽁澁a,㵪B熷岙㶊瀬㶑灐;RGA𠌥䏁㗱𠻘𣻗垾𦻓焾𥟠㙎榢𨯩孴穉𥣡𩓙穥O𥦬窻,I8燑"),
    (2061, "𦒍䇊竚:D䇯咲𥰁笋a9_s𥌎𥳾箢_lx4𥮴𦱿篐xX箒"), (2083, "𥴠㶭𥱥蒒篺"), (2089, "簵𥳁籄a.𤢂粦晽𤕸糉5V_-an9"), (2104, "繧䔝𦹄絝𦻖璍zSY焵綳"),
    (2115, "𤁗𦀩緤㴓緵𡟹緥𨍭"), (2124, "𦄡a(繮[䌫鑬縧cX8=礶𦋐駡羗𦍑羣𡙡𠁨䕜𣝦䔃𨌺翺𦒉"), (2149, "耈L"),
    (2152, "耯𪂇𦳃耻8`l𢜔䦉𦘦𣷣𦛨朥肧𨩈脇J墰𢛶汿𦒘𤾸擧𡒊舘𡡞橓𤩥`w䑺舩𠬍𦩒𣵾俹𡓽蓢荢𦬊𤦧𣔰𡝳𣷸芪椛芳䇛蕋苐a9𠸖𡞴㛁𣅽𣕚艻aVa%𣺋𦶣𦬅b)𣗎㶿茝嗬莅䔋𦶥莬"),
    (2222, "菓㑾𦻔橗蕚㒖𦹂𢻯葘𥯤葱㷓tx檧葊𣲵祘"), (2240, "𦮖hh_k蓞"),
    (2245, "莑䒠蒓a@𥲑䉀𥳀䕃蔴嫲𦺙䔧蕳䔖枿蘖𨘥M藁𧂈蘂𡖂𧃍䕫䕪蘨㙈𡢢号𧎚虾c2𪃸蟮𢰧螱`pa$噡虬桖䘏衅8𧗠𣶹𧗤衞a-䙛袴8揁装睷𧜏覇:"),
    (2305, "覧L𨨥觧𧤤e(誜瞓釾誐𧩙竩𧬺𣾏䜓𧬸煼謌J𥐰ct謿D8^S𤩺讐B]c𡛟䘕衏ls𧵔a*貫㜥𧵓賖𧶘`l贒(𡤐賛灜贑𤳉㻐"),
    (2355, "趩𨀂𡀔𤦊㭼𨆼𧄌竧躭@Dl8輙K𨍥bD辥j5𪊟𠩐辳䤪𨧞𨔽𣶻廸𣉢迹𪀔𨚼𨔁𢌥㦀𦻗逷𨔼𧪾遡𨕬b6邨𨜓郄𨛦邮"), (2401, "酧㫰醩R粬𨤳𡺉鈎沟鉁X𥖹"),
    (2414, "𨫆𣲛𨬌𥗛𠴱錬a.𨫡cI炏嫃𨫢:䥥鉄𨯬a<_e鍳c'躼t0X鐦da濶䊹𢙺𨛘𡉼𣸮䧟氜陻R䅬隣𦻕懚隶磵𨫠隽双䦡𦲸𠉴𦐐𩂯a%𤫑𡤕𣌊霱虂霶䨏䔽a7𤫩灵孁霛"), (2478, "𩇕靗孊𩇫靟鐥僐𣂷<鞉MID9IE𥑬韮琜𩐳"),
    (2499, "韵𩐝𧥺䫑頴6OR㬎𧅵㵑𠘰𤅜𥜆飊$H6䫿𦴧𡛓喰飡<=鍸q0𤨩䭲𩡗bE駵N`v_ta7𥜥㛄𩂱𩯕髠9𩬅髴䰎鬔P𨘀倴鬴𦦨㣃𣁽魐'𩴾婅𡡣鮎𤉋鰂4D𩹨鷔𩾷ejP^-a1bS鵾<𪄴鸎梈鷄𢅛𪆓b$𡤻𪈳鴹𪂹f2麐<@;䴴麪<𤍤"),
    (2592, "黁㭠㧥ig伲㞾𨰫鼂=䮖鐤𦶢鼗"), (2606, "鼹嚟`2齅馸𩂋韲葿齢>竜龎爖䮾𤥵a5煷𤧸𤍈tp玞𨯚𡣺禟𨥾n/鍩ay𨩄鋬b,a9𨥬𤒹爗㻫睲hX烐𤑳_$煾𡟯炣𡢾𣖙㻇𡢅𥐯𡟸㜢𡛻d%㛡𡝴dD𥽋㜣𡛀坛𤨥𡏾𡊨c]c/"),
    (2671, "蔃𣚦"), (2674, "葕𤦔𧅥𣸱𥕜𣻻𧁒䓴𣛮𩦝𦼦柹㜳nYea塬𡤢栐䁗𣜿𤃡_Ias𦰡哋eb𦚱嚒𠿟𠮨gD鏆𨬓鎜仸fj㠙𤐶亼𠑥]i佋a.𥙑婨𠆫fW㦙𠌊cI㐵伩𠋀𨺳𠉵諚𠈌亘fla/侢^X𤨎𣺊佂c+a-L^BPab"),
    (2745, "僼"), (2750, "湶𣖕ySau浲𡢄𣺉冨R𠗠䓝𠒣&6赺𨪜𠜎剙a:𠡳勡"), (2772, "䙺熌𤎌𠰠𤦬𡃤槑𠸝"),
    (2781, "㻞璙^ra1^9䮎𤪼𤂍叐㖄爏𤃉喴𠍅响𠯆圝鉝mf鍦埝_O)㘾壋e]𨩆𡛺ad_@娬_+銏婾a@^:𥥆𡧳𡡡𤊕㛵洅uM娡𥺃媁𨯗𠐓鏠璌𡌃焅䥲鐈𨧻鎽㞠尞aoeO`1𡦖`-𣫮廍孏𡤃8㜁𡢠㛝𡛾㛓脪𨩇𡶺𣑲𨦨弌9𡤧𡞫婫𡜻孄蘔𧗽衠"),
    (2869, "恾𢡠𢘫忛㺸𢖯F𩂈𦽳懀𠀾?𢘛憙6],𢲛a[𤛔𩅍摱𤙥𢭪㨩𢬢𣑐𩣪𢹸挷𪑛撶挱b7𤧣𢵧护𢲡搻col.㯴𣂎fV𤦉𣊫唍𣋠𡣙𩐿曎𣊉]y㫠so𥖄𨬢𥖏𡛼𥕛𥐥磮𣄃𡠪𣈴㑤𣈏^j𤋉暎𦴤晫䮓昰𧡰𡷫晣𣋒F昞𥡲㣑𣠺^y㮙𣞢𣏾瓐㮖枏𤘪梶^_㯄"),
    (2962, "檾㡣𣟕𤒇樳Vafa+𡤒攑j^eC㯗橺bt𣿀𣲚鎠^I𨯪]0銉𨀞𨧜鑧涥dM𤧬"),
    (2991, "𣽿㶏渄𤀼娽渊塇洤硂焻𤌚^S烱dFa&D𤞏_5兹𤪤𠗫瑺𣻸𣙟𤩊𤤗𥿡㼆_J𤫟𨰣𣼵悧㻳瓌^g鎇琷䒟𦷪䕑疃㽣𤳙`t㽘畕c]𪗆㬙瑨𨫌𤦫`*㫻hY𤩎㻿𤧅^%釺圲鍂𨫣𡡤僟𥈡_e睸𣈲眎8a[𤚗𣞁㩞𤣰琸aR㺿𤪺D䃈𤪖𦆮錇𥖁砞a^"),
    (3080, "碈a9珐pP𧝁𥛣䄎"), (3088, "蒖禥樭𣻺稺_Y䅮𡛦䄲鈵秱𠵌𤦌𠊙𣶺𡝮㖗啫㕰cy𠇔𠰍竢婙𢛵𥪯$娍𠉛磰娪𥯆竾䇹籝G䈑𥮳i8`1糍𤧹𡞰粎%`y檲緜`r_kdb𦉡]J𧭈綗𥺂䉪𦭵𠤖柖𠁎𣗏埄𦐒`-𤥢翝笧𠠬𥫩g9笌"),
    (3160, "𥸎駦虅驣樜𣐿㧢𤧷𦖭騟𦖠蒀𧄧𦳑䓪脷䐂胆a2a(𦞴飃𦩂艢:𦩑葓𦶧蘐𧈛媆䅿𡡀嬫𡢡嫤𡣘蚠蜨𣶏蠭𧐢娂衮佅袇a'`nan`/𥚃襔𧞅6𨯵`+_b𨧹㺭蒣䛵_y㟲訽`&𩑈彍鈫𤊄旔焩_:𡡅鵭貟a9𧷜妚矃姰䍮㛔踪al𤰉輰Q䋴汘j:"),
    (3250, "𢌡䢛潹]a𡟚鯩㚵𤤯邻"), (3260, "啱䤆醻g(𨩋䁢𨫼鐧𨰝U蓥oe閙E'6𨴴瑅㻂𤣿d*𤏪㻧𣈥随𨻧^v6㻌𤧭az𣿮琒aH㻼靁𩂰桇䨝𩂓𥟟"),
    (3302, "鍨𨦉h$]X𦎾銺嬑譩䤼珹𤈛鞛_ueV𠼦巁𨯅𤪲頟𩓚鋶𩗗釥䓀𨭐𤩧𨭤飜𨩅㼀鈪䤥萔餻I𧬆㷽馛䭯馪bI𨭥𥣈檏騡嫾騯𩣱䮐𩥈馼䮽_y鍽塲𡌂堢𤦸𡓨硄𢜟𣶸棅㵽鑘㤧慐𢞁ey愇鱏;`o_Y_z^fa?𩸭鮟𪇵]X鴡䲮𤄄鸘䲰鴌𪆴^0="),
    (3392, "𩤯鶥蒽𦸒𦿟𦮂藼䔳𦶤bw^c萠e]𦸀𣟗𦁤秢𣖜b;䤭𤧞㵢鏛]2ay𠊿碹鉷ee俤㑀遤𥕝砽NaQ_4𡝗𣇉𤥁㚚佲濚6"), (3437, "瀞吔𤆵垻cw垊鴖埗焴㒯𤆬燫𦱀𤾗"),
    (3452, "𡞵𨩉愌嫎^4䊼𤒈㜬䭻𨧼鎻4𡣖𠼝葲𦳀𡐓𤋺𢰦𤏁妔𣶷𦝁綨𦅛^@𤦹_q𨧺鋥珢㻩璴𨭣𡢟㻡𤪳櫘zr?㻖𤨾aE𡟙𤩦𠎧𡐤𤧥瑈𤤖炥𤥶銄珦鍟𠓾錱𨫎^?鎆𨯧𥗕䤵𨪂煫𤥃𠳿嚤𠘚q@bd唂秄𡟺緾𡛂𤩐𡡒䔮鐁㜊𨫀𤦭妰𡢿_c𧒄媡㛢𣵛㚰鉟婹𨪁𡡢"),
    (3547, "鍴㳍𠪴䪖㦊僴㵩`*𡎜煵䋻𨈘渏𩃤䓫浗𧹏灧沯㳖𣿭𣸭渂cI㵯𠏵畑㚼㓈䚀㻚䡱姄鉮䤾轁𨰜𦯀堒_U㛖𡑒烾𤍢tv𢿣𡊰𢎽梹bE𡎘𣓥𧯴𣛟𨪃𣟖𣏺𤲟樚𣚭𦲷萾䓟&𦴦`r^(j3漗𧄉茽𡜺菭𦲀kR𡟛妉c8𡞳婡G𡤅𤇼㜭姯𡜼㛇熎鎐暚𤊥婮娫𤊓"),
    (3641, "樫𣻹𧜶𤑛𤋊焝𤉙𨧡侰𦴨峂𤓎𧹍𤎽樌𤉖𡌄炦b$𤏩㶥泟勇𤩏繥姫is㷳彜𤩝𡟟綤sA咅𣫺𣌀𠈔坾𠣕𠘙㿥𡾞𪊶瀃𩅛嵰玏糓𨩙𩐠俈翧狍a2𧫴猸8𥛶獁>㺩𧬘遬燵𤣲珡臶㻊県㻑沢国琙<8㻢E;=瓓㼎a4畂`r<R㽼痈K㿀癍㿗癴㿜発𤽜熈嘣"),
    (3739, "覀塩䀝睃䀹条䁅㗛瞘䁪<属瞾D売砘点ur䂨砹EAL葈𥔵礳栃礲䄃=禑?辻稆込䅧窑䆲窼vt䇄竏C䇏両筢AFb.@䉠Q类X䊌粸䊔糭输烀𠳏総<3`te@=犟䎗耠<笹nl:Z㷌垴炠肷`y䏭脌猪脎;畠脔䐁㬹腖:8䐓堺腼?䐥"),
    (3836, "膓䐭膥埯臁Za_䒏芦_oaCE`n䒰荗险榊萅烵葤惣蒈䔄蒾ZNO`oQ䔻蕯8a_䕷虲WWa,际螋䘆H袮a@`lZa9𧥧訩FaKWe,arU`q䞘塟跃䟭th踺嗘dc蹱嗵躰䠷軎K9@<辷A@9aV駄䢭飠鈓䤞鈨`wJ"),
    (3922, "銱4H[??8@a5a0`p䥅C麿鐗匁鐝GH䥪鑔`lbKad䦧间a.䧥枠䨤靀䨵鞲G噔䫤惨颹䬙飱塄餎B冴餜RBR<䭰駅䮝騼bj窃魩OaKK:䱭鰠㝯𡯂鵉]@hK噐鶓`q:a+银辶鹻`x<C@铜黢F>竈齄𠂔fZc("),
    (4010, "椚铃妬𠓗塀铁㞹𠗕a/aP𡚺块煳𠫂Bc1呪吆𠯋咞𠯻a/OIN惧𠲍噺𠲵`oGaqa2M楕鰯螥𠸄Ab`bP_<^=尠𠾼帋𡁜*`n朞𡁻DE㙇𡂿KaKC卤蒭𡋣b)_`讁𡕷b9e9;乸炻𡠭d$bZOeta5a+fS拃𡻕"),
    (4090, "𡼕熘桕𢁅槩㛈𢉼dBZi_d.bu苽𢥧`sd)覥𢫨辠𢬎鞸𢬿顇gU𢱌"), (4116, "𢲈`v𥯨𢴈Ab<`%bDcqaGaV`zh@bV徱sVaf𧩹𣕧b#"), (4137, "𤦺"),
    (4139, "𣘚c;"), (4142, "𠍆墵朎fA𣪧𧙗𥿢𣸑b?𧗾𢂚䣐ew𤄙𨪚𤋮V𤀻i(aQsn𠗊凒𠘑妟𡺨㮾𣳿tlbi垈𤙴㦛𤜯𨗨𩧉㝢𢇃譞𨭎"), (4183, "𤠒c(cY爉𤫀𠱸奥𤺥bx𠝹軚𥀬劏n'煱𥊙dg𣽊𤪧喼𥑆`o𦭒"),
    (4207, "㑳𥔿𧘲𥕞䜘𥕢;g@𤤿𥡝偦㓻𣏌"), (4221, "𥤃䝼𨥈𥪮bral𡶐垡煑"), (4231, "𦄂𧰒遖𦆲𤾚譢𦐂a7嵛𦯷"), (4242, "𦒄𡤜諪𤧶𦒈𣿯𦔒䯀𦖿c5𢜛鑥𥟡憕娧晉"),
    (4259, "嚹𤔡𦛼乪𤤴陖涏𦲽㘘襷𦞙bl𦐑lt"), (4274, "𦣇筂𩃀𠨑𦤦"), (4280, "𦤹穅"), (4283, "𦧺騦𦨭㙟𦑩𠀡禃𦨴cf崬𣔙"),
    (4295, "𦮝䛐𦲤画补𦶮墶㜜𢖍𧁋di㱔𧊀<銁𢅺𧊋錰𧋦𤧐氹钟𧑐𠻸蠧be𢤦𨑳𡞱溸𤨪𡠠㦤㚹"), (4331, "䔿暶𩲭𩢤襃𧟌b#囖䃟𡘊㦡𣜯𨃨𡏅熭荦𧧝𩆨"),
    (4350, "䲷𧂯𨦫𧧽Dc@g:𤅺筃祾𨀉澵𪋟樃𨌘厢𦸇鎿栶靝𨅯𨀣𦦵𡏭𣈯𨁈嶅𨰰𨂃圕頣𨥉嶫𤦈斾l>叒𤪥𣾁㰑朶𨂐aSa)𡾡𨅏a)`maZc+`paJ㗊𨑨fy䣺揦𨥖砈鉕𨦸䏲𨧧䏟𨧨dEb%姸𨰉"), (4420, "𨿅cf"),
    (4423, "𩄐`s㷷𩅞𤫊运犏嚋𩓧cA_f?dae.agXaHaTc%g+a0纟𩻸`r䲤镇𪊓熢𪋿䶑递𪗋䶜𠲜达嗁辺𢒰边𤪓䔉繿潖檱仪㓤𨬬𧢝㜺躀𡟵𨀤𨭬`t𧨾𦚯㷫𧙕𣲷𥘵iP亚𥺁kV嚿𠹭踎孭𣺈𤲞揞"),
    (4495, "𡟶at攰嘭𥱊吚𥌑㷆𩶘䱽嘢3罉𥻘奵𣵀蝰东𠿪𠵉𣚺脗鵞贘瘻鱅癎dR鍅吲腈e>嘥脲hm肽嗪祢噃吖𠺝㗎嘅#曱𨋢㘭甴嗰_i],br𠱁aD廐𥅈𠹶𢱢𠺢麫絚嗞𡁵抝靭咔賍燶酶揼掹a4啩𢭃鱲𢺳冚㓟𠶧冧h-bh,癦踭𦢊疱肶u]^y"),
    (4585, "裇膶gE𡃁䓬猄𤜆宐茋𦢓噻𢛴𧴯𤆣𧵳𦻐ke酰𡇙鈈𣳼𪚩𠺬a<牦𡲢䝎𤿂𧿹𠿫䃺鱝攟𢶠䣳𤟠𩵼𠿬𠸊"), (4625, "𧖣𠿭"), (4628, "𦁈𡆇熣纎鵐业`1㕷嬍沲卧㚬i_卽㚥𤘘墚𤭮舭呋j6𥪕𠥹"),
    (4652, "㩒𢑥獴𩺬䴉鯭𣳾𩼰䱛𤾩𩖞𩿞葜𣶶𧊲𦞳𣜠挮紥𣻷^,㨪逈勌㹴㙺䗩𠒎癀嫰𠺶硺𧼮墧䂿噼鮋嵴癔𪐴麅䳡"), (4695, "㟻愙𣃚𤏲"), (4700, "噝𡊩垧𤥣𩸆刴𧂮㖭"),
    (4709, "鵼籖鬹埞𡝬屓y/𩓐𦌵𧅤蚭𠴨𦴢𤫢𠵱"), (4725, "凾𡼏嶎霃𡷑麁遌笟鬂峑箣扨bd髿篏鬪籾"), (4743, "籂a3鰕篼鬉"),
    (4749, "鰛𤤾齚啳rg俽麘俲gM㸆勑me偖妷m*韈qR轜呩鞴ds鞺匬愰w[叚鰊c7䰻陁榀傦畆𡝭駚剳"), (4786, "酙oG酜"), (4790, "酑𨺗捿𦴣櫊嘑醎畺抅𠏼獏zx𥰡𣳽"),
    (4805, "𤤙盖鮝个𠳔莾mS"), (4813, "届槀"), (4816, "坺刟巵从氱𠇲伹p*a-劚趂㗾"), (4829, "㗳"), (4831, "歒酼龥鮗頮auf=km`#煺笔"), (4843, "毺蠘罸"),
    (4847, "嘠𪙊蹷齓"), (4852, "跔aj鸜踁抂𨍽踨a<竓𤩷稾磘泪詧瘇𨩚鼦泎蟖痃𪊲硓咢贌狢b&謭猂f&賫𤪻蘯徺袠䒷"), (4888, "𡠻𦸅"), (4891, "詾𢔛"), (4894, "惽癧髗gL鍮x(蟵"),
    (4903, "賷猬霡m^㗖犲䰇籑饊𦅙慙䰄麖慽"), (4918, "坟慯cv_2"), (4923, "㩜懢厪𣏵捤mm㗒嵗𨯂迚𨸹"), (4935, "僙𡵆礆匲阸𠼻䁥"), (4943, "矾"),
    (4945, "糂𥼚糚稭rP4絍甅$覔舚朌聢𧒆聛瓰脃眤覉𦟌畓𦻑螩`l臈q3hDgC譃眫瓸蓚㘵榲趦"), (4981, "覩"), (4983, "涹蟁𤀑瓧㷛煶悤c7㳑"), (4993, "恷"), (4995, "罱𨬭"),
    (4998, "惩䭾sa㰘𣳇𥻗𧙖𥔱𡥄𡋾𩤃𦷜hX峁𦆭𨨏𣙷𠃮𦡆𤼎䕢嬟𦍌齐^M𦉫"), (10896, "①!)B!)ⅰ!)丶@a5RhiKLd5a.`xa<osgUg:⼳广"), (10943, "彐HqB"),
    (10947, "疒"), (10949, "辵"), (10951, "¨ˆヽ8_>8"), (10959, "々88c4［9✽z[!rE!uА!%#L!?Sж!9⇧_p8㇏𠃌乚𠂊刂䒑龰冈龱𧘇"),
    (11254, "￢9]r2㈱№B゛8⺀;988998?>8?9:99?=9?;989>8><"), (11294, "ʃɐB0Xœøŋʊɪ"),
    (18956, "碁銹裏墻vN粧嫺╔I(@C..F+,I(@C..F+/I(@C..F+,6T896￭𠕇鋛𠗟𣿅蕌䊵珯况㙉𤥂𨧤鍄𡧛苮𣳈砼杄拟𤤳𨦪𠊠𦮳𡌅侫𢓭倈𦴩𧪄𣘀𤪱𢔓"), (19029, "𠍾徤𠎀_f滛𠐟"),
    (19036, "儁㑺儎顬㝃萖𤦤𠒇兠𣎴兪𠯿𢃼𠋥𢔰𠖎𣈳𡦃宂蝽𠖳𣲙冲=鴴凉=9㳜凓𤪦决`vdG凭菍椾𣜭彻刋RMah_Aa,`lC簕蕂勠蘍𦬓"), (19089, "𨫞啉滙𣾀𠥔𣿬匳"),
    (19097, "𠯢泋𡜦栛珕恊㺪㣌𡛨燝䒢卭>𨚫卾"), (19113, "𡖖al矦厓𨪛厠B:玧𥝲㽙玜叁;汉义埾叙㪫𠮏叠𣿫𢶣叶𠱷吓灹唫晗tk呭𦭓𠵴啝^)L䞦𡜍𠻝㶴𠵍𨦼𢚘啇䳭uQ琗喆Z"),
    (19163, "𡣗𤀺䕒𤐵暳𡂴嘷曍𣊊暤@噍9磱囱鞇叾i1&5𨭦㘣𡉏坆𤆥汮lD坂㚱𦱾埦𡐖堃𡑔𤍣堦𤯵塜a=㕡壠3𡈼壻i3坃𪅐𤉸鏓㖡够梦㛃湙𡘾娤啓𡚒蔅姉𠵎𦲁b@𡟜姙𡟻_V𦶦浱𡠨𡛕姹𦹅媫_W㛦𤦩"),
    (19241, "㜈媖瑥嫓𦾡𢕔㶅𡤑㜲𡚸広勐yU斈孼𧨎䀄x`𠈄寕pR𡨴𥧌𠖥寳_I䴐尅𡭄尓珎尔𡲥𦬨屉䣝岅aS=b3𡷹a-崐?`u𡺤岺巗苼㠭𤤁𢁉ci芇㠶jc帮檊"), (19300, "幺𤒼𠳓厦亷"),
    (19306, "厨𡝱帉c*𨒂廹9㢠廼栾鐛弍𠇁弢㫞䢮𡌺强𦢈𢏐"), (19327, "𢑱彣鞽𦹮彲鍀𨨶徧嶶㵟𥉐𡽪𧃸𢙨釖𠊞𨨩怱rk𡡷㥣m3㘹垐𢞴祱㹀悞"),
    (19356, "悳𤦂D𧩓璤僡媠t+萤慂慈𦻒憁凴𠙖憇宪𣾷𢡟懓𨮝𩥝懐㤲𢦀^8怣cxkA掋𠄘担𡝰拕𢸍捬𤧟㨗搸__𡎎m="), (19399, "澊𢸶頔𤂌𥜝擡;鑻㩦携㩗敍漖𤨨2斅`/)𣁾斵𤥀䬷旑䃘𡠩无:忟𣐀昘𣇷8晄𣆤8晋𠹵晧𥇦晳"),
    (19440, "𡸽𣈱𨗴𣇈𥌓矅𢣷馤朂𤎜sD㬫槺𣟂"),
    (19455, "杧2𤇍𩃭柗䓩栢rE鈼栁𣏦𦶠桝𣑯槡`q𨫟楳^G𣗍椁6㴲㨁𣘼㮀枬eD𨩊䋼椶aQ㮡𠏉荣傐槹𣙙𢄪橅𣜃檝㯳枱iF𩆜㰍欝𠤣惞欵a.𢟍溵𣫛𠎵𡥘㝀吡𣭚毡𣻼毜aJ𢒋𤣱𦭑汚舦汹𣶼䓅𣶽kfuw+𣳉㛥qu𠴲鮃𣇹𢒑羏样𦴥aka9涖"),
    (19544, "浜c_aw𤥿𤂅𦹲蔳𦽴凇"), (19555, "萮𨬡"), (19558, "𣸯瑓𣾂秌湏媑𣁋濸㜍澝𣸰滺𡒗𤀽䕕鏰潄O㵎潴𩅰㴻澟𤅄濓𤂑b[]3_V_cdr凟𤅖8`0𦇝灋`z`p_ya:@8@䄄㷨熴`)𤉷焫Q媈煊"),
    (19612, "岜𤍥煏鍢𤋁焬𤑚q<2熺𨯨炽d8鑂爕夑鑃爤鍁𥘅爮I𤥴梽牕9㹕𣁄栍u?it"), (19644, "猫𤠣𨠫䣭𨠄猨=b8_z𠰺𦨮珉ao𤇢𡛧𤨤昣㛅𤦷_ua]珷U椃𤨦琹𠗃㻗"),
    (19673, "𢢭瑠𨺲瑇_<b)莹瑬㜰瑴鏱樬璂䥓𤪌𤅟zq𨮏孆𨰃𡢞瓈𡦈甎"), (19698, "甞𨻙𡩋寗𨺬鎅畍4T>𤾂㼄𤴓疎瑝d(Ma=`q`l5W>𦏵皐臯㟸𦤑4皡;IL𦾟葢𥂝bw𡸜眞?Q撯𥈠睘𣊬瞯𨥤;𡛁矴"),
    (19749, "𡍶𤨒棊碯OC隥礮𥗠磗aL^t𧘌辸袄𨬫𦂃𢘜禆褀椂禀𥡗禝𧬹礼禩渪𧄦㺨秆𩄍秔")]

/-- What a later version of the supplement of Hong Kong adds. -/
def hongKongLater : List (Nat × String) :=
  [(1000, "㡵𡵓𣚞𦀡㻬𥣞㫵竼龗𤅡𨤍𣇪𠪊𣉞䌊蒄龖鐯䤰蘓墖靊鈘秐aQ晠kH袝瑌v0枂稬剏遆㓦珄𥶹瓆鿇垳䤯呌䄱𣚎堘穲𧭥讏䚮𦺈䆁𥶙箮𢒼鿈𢓁?:鿉蔄𣖻䂴鿊䓡𪷿拁灮鿋")]

end GirDoc.Text.Grid.Run
